import JustRun.Settings.Store

/-!
# The login item and the desktop shortcut

`services/launch.rs`: `apply` for each platform, and `apply_desktop_shortcut`.
-/
namespace JustRun.Settings
open Machine Concurrency Concurrency.Prog

variable {Other : Type}

/-! ### Places -/

namespace Host
variable (host : Host Other)

/-- The folder of the login items, and the names of the new one and the old one in it. -/
def startupDir : Except String Path :=
  match host.platform with
  | .macos => match host.homeDir with
    | some home => .ok (home ++ ["Library", "LaunchAgents"])
    | none => .error "无法定位 macOS 用户目录"
  | _ => match host.dataDir.or host.configDir with
    | some base => .ok (base ++ ["Microsoft", "Windows", "Start Menu", "Programs", "Startup"])
    | none => .error "无法定位 Windows 启动目录"

def startupName : String :=
  if host.platform = .macos then "com.justrun.app.plist" else "JustRun.cmd"

def legacyStartupName : String :=
  if host.platform = .macos then "com.redroid.device-center.plist" else "Redroid Device Center.cmd"

def startupFile : Except String Path := do
  let dir ← host.startupDir
  .ok (dir ++ [host.startupName])

def legacyStartupFile : Except String Path := do
  let dir ← host.startupDir
  .ok (dir ++ [host.legacyStartupName])

def desktopDir : Except String Path :=
  match host.desktop.or (host.homeDir.map (· ++ ["Desktop"])) with
  | some dir => .ok dir
  | none => .error "无法定位桌面目录"

end Host

def desktopShortcutPaths (dir : Path) : List Path :=
  [dir ++ ["JustRun.url"], dir ++ ["JustRun.desktop"], dir ++ ["JustRun.command"]]

def legacyDesktopShortcutPaths (dir : Path) : List Path :=
  [dir ++ ["Redroid Device Center.url"], dir ++ ["Redroid Device Center.desktop"],
    dir ++ ["Redroid Device Center.command"]]

/-! ### Files and services -/

/-- `map_err(|e| format!("{label}{e}"))`. -/
def labelled {α : Type} (label : String) (r : Except String α) : SettingsProg Other α :=
  ofExcept (r.mapError (label ++ ·))

def removeFile (path : Path) (label : String) : SettingsProg Other Unit :=
  .call (.removeFile path) (labelled label)

def removeIfPresent (path : Path) (label : String) : SettingsProg Other Unit :=
  .call (.pathExists path) fun present => if present then removeFile path label else .ret ()

def createDirs (path : Path) (label : String) : SettingsProg Other Unit :=
  .call (.createDirs path) (labelled label)

def currentExe : SettingsProg Other String := .call .currentExe (labelled "无法定位应用程序: ")

/-- `std::fs::write`. -/
def writeFile (path : Path) (content label : String) : SettingsProg Other Unit :=
  .call (.createFile path) fun
    | .error error => .fail (label ++ error)
    | .ok () => .call (.writeAll path content) (labelled label)

def launchctlGuiDomain : SettingsProg Other String :=
  .call .runId fun
    | .error error => .fail ("读取 macOS 用户 ID 失败: " ++ error)
    | .ok output => do
      rejectIf (!output.success) "读取 macOS 用户 ID 失败"
      let uid := trim output.stdout
      rejectIf (uid.toList.isEmpty || !uid.toList.all Char.isDigit) "macOS 用户 ID 无效"
      .ret ("gui/" ++ uid)

/-- A service that is not there need not be removed. -/
def isMissingService (error : String) : Bool :=
  containsText error "No such process" || containsText error "Could not find service" ||
    containsText error "not found"

def unloadLaunchAgent (path : Path) : SettingsProg Other Unit :=
  .call (.pathExists path) fun present =>
    if !present then .ret ()
    else do
      let domain ← launchctlGuiDomain
      let label ← orReject (fileStem path) "macOS 启动项名称无效"
      .call (.bootout (domain ++ "/" ++ label)) fun
        | .error error => .fail ("注销 macOS 启动项失败: " ++ error)
        | .ok output => rejectIf (!output.success && !isMissingService output.stderr)
            ("注销 macOS 启动项失败: " ++ trim output.stderr)

def loadLaunchAgent (path : Path) : SettingsProg Other Unit := do
  let domain ← launchctlGuiDomain
  .call (.bootstrap domain path) fun
    | .error error => .fail ("加载 macOS 启动项失败: " ++ error)
    | .ok output => rejectIf (!output.success)
        ("加载 macOS 启动项失败: " ++ trim output.stderr)

/-! ### The login item -/

def replaceChar (c : Char) (text value : String) : String :=
  String.ofList (value.toList.flatMap fun d => if d = c then text.toList else [d])

def xmlEscape (value : String) : String :=
  replaceChar '\'' "&apos;" (replaceChar '"' "&quot;" (replaceChar '>' "&gt;"
    (replaceChar '<' "&lt;" (replaceChar '&' "&amp;" value))))

def launchAgentContent (executable : String) : String :=
  "<?xml version=\"1.0\" encoding=\"UTF-8\"?>\n<!DOCTYPE plist PUBLIC \"-//Apple//DTD PLIST 1.0//EN\" \"http://www.apple.com/DTDs/PropertyList-1.0.dtd\">\n<plist version=\"1.0\"><dict><key>Label</key><string>com.justrun.app</string><key>ProgramArguments</key><array><string>" ++
    xmlEscape executable ++
    "</string></array><key>RunAtLoad</key><true/><key>ProcessType</key><string>Interactive</string></dict></plist>\n"

def startupContent (executable : String) : String :=
  "@echo off\r\nstart \"\" \"" ++ executable ++ "\"\r\n"

def applyWindows (host : Host Other) (enabled : Bool) : SettingsProg Other Unit := do
  let path ← ofExcept host.startupFile
  let legacyPath ← ofExcept host.legacyStartupFile
  if enabled then
    removeIfPresent legacyPath "移除旧开机启动项失败: "
    let exe ← currentExe
    createDirs path.dropLast "创建启动目录失败: "
    writeFile path (startupContent exe) "写入开机启动项失败: "
  else
    removeIfPresent path "移除开机启动项失败: "
    removeIfPresent legacyPath "移除开机启动项失败: "

def applyMacos (host : Host Other) (enabled : Bool) : SettingsProg Other Unit := do
  let path ← ofExcept host.startupFile
  let legacyPath ← ofExcept host.legacyStartupFile
  if enabled then
    unloadLaunchAgent legacyPath
    removeIfPresent legacyPath "移除旧 macOS 开机启动项失败: "
    let executable ← currentExe
    createDirs path.dropLast "创建 LaunchAgents 目录失败: "
    writeFile path (launchAgentContent executable) "写入 macOS 开机启动项失败: "
    unloadLaunchAgent path
    loadLaunchAgent path
  else
    unloadLaunchAgent path
    unloadLaunchAgent legacyPath
    removeIfPresent path "移除 macOS 开机启动项失败: "
    removeIfPresent legacyPath "移除 macOS 开机启动项失败: "

def apply (host : Host Other) (enabled : Bool) : SettingsProg Other Unit :=
  match host.platform with
  | .windows => applyWindows host enabled
  | .macos => applyMacos host enabled
  | .linux => rejectIf enabled "当前平台暂不支持开机启动"

/-! ### The desktop shortcut -/

/-- The file names this application or the one it comes from. -/
def isOwnShortcut (content : String) : Bool :=
  containsText content "JustRun" || containsText content "Redroid Device Center"

def removeIfOwned (path : Path) : SettingsProg Other Unit :=
  .call (.readToString path) fun content =>
    if content.any isOwnShortcut then removeFile path "移除桌面快捷方式失败: " else .ret ()

def removeOwned : List Path → SettingsProg Other Unit
  | [] => .ret ()
  | path :: paths => do
    removeIfOwned path
    removeOwned paths

def removeDesktopShortcuts (host : Host Other) : SettingsProg Other Unit := do
  let dir ← ofExcept host.desktopDir
  removeOwned (desktopShortcutPaths dir ++ legacyDesktopShortcutPaths dir)

def shortcutName : Platform → String
  | .windows => "JustRun.url"
  | .macos => "JustRun.command"
  | .linux => "JustRun.desktop"

def shortcutContent (platform : Platform) (executable : String) : String :=
  match platform with
  | .windows => "[InternetShortcut]\r\nComment=JustRun\r\nURL=file:///" ++
      replaceChar ' ' "%20" (replaceChar '\\' "/" executable) ++ "\r\nIconFile=" ++ executable ++
      "\r\nIconIndex=0\r\n"
  | .macos => "#!/bin/sh\n# JustRun\nexec '" ++ replaceChar '\'' "'\\''" executable ++ "'\n"
  | .linux => "[Desktop Entry]\nType=Application\nName=JustRun\nExec=\\\"" ++
      replaceChar '"' "\\\"" executable ++
      "\\\"\nTerminal=false\nCategories=Development;Utility;\n"

/-- `#[cfg(unix)]`. -/
def makeExecutable (path : Path) : SettingsProg Other Unit :=
  .call (.readMode path) fun
    | .error error => .fail ("读取快捷方式权限失败: " ++ error)
    | .ok () => .call (.setMode path) (labelled "设置快捷方式权限失败: ")

def applyDesktopShortcut (host : Host Other) (enabled : Bool) : SettingsProg Other Unit :=
  if !enabled then removeDesktopShortcuts host
  else do
    let dir ← ofExcept host.desktopDir
    createDirs dir "创建桌面目录失败: "
    removeDesktopShortcuts host
    let executable ← currentExe
    let path := dir ++ [shortcutName host.platform]
    writeFile path (shortcutContent host.platform executable) "写入桌面快捷方式失败: "
    if host.platform ≠ .windows then makeExecutable path

end JustRun.Settings
