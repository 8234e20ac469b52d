import JustRun.Machine.Shell

/-!
# Text that reaches a shell on the device

`services/adb.rs` and `services/device.rs`: what is typed or pasted goes to `adb shell` as part
of a line, which the device's shell takes apart again.
-/
namespace JustRun.Devices
open Machine Machine.Shell

/-- `replace(from, to)` for a single character. -/
def replaceChar (c : Char) (into l : List Char) : List Char :=
  l.flatMap fun d => if d = c then into else [d]

/-- How `input text` spells a space. -/
def encodeSpaces (text : String) : List Char := replaceChar ' ' ['%', 's'] text.toList

/-- `input_text`, the line it gives to `adb shell`. -/
def inputText (text : String) : String :=
  let escaped := replaceChar '\'' ['\\', '\''] (encodeSpaces text)
  "input text '" ++ String.ofList escaped ++ "'"

def clipboardUri (escaped : List Char) : String :=
  "cmd clipboard set --uri \"" ++ String.ofList escaped ++ "\""

def clipboardPlain (escaped : List Char) : String :=
  "cmd clipboard set \"" ++ String.ofList escaped ++ "\""

def escapeClipboard (content : String) : List Char :=
  replaceChar '"' ['\\', '"'] (replaceChar '\\' ['\\', '\\'] content.toList)

/-- The lines that `send_clipboard` gives to `adb shell`, each after the one before has failed. -/
def sendClipboard (succeeds : String → Bool) (content : String) : List String :=
  let escaped := escapeClipboard content
  if succeeds (clipboardUri escaped) then [clipboardUri escaped]
  else if succeeds (clipboardPlain escaped) then [clipboardUri escaped, clipboardPlain escaped]
  else [clipboardUri escaped, clipboardPlain escaped, inputText content]

/-- The MCP tool `send_text`. -/
def sendText (text : String) : String := inputText text

/-- The device's shell reads the text as one argument of the command it is for. -/
structure TextIsData (content : String) : Prop where
  typed : tokenise (inputText content) =
    .ok ["input", "text", String.ofList (encodeSpaces content)]
  pastedUri : tokenise (clipboardUri (escapeClipboard content)) =
    .ok ["cmd", "clipboard", "set", "--uri", content]
  pastedPlain : tokenise (clipboardPlain (escapeClipboard content)) =
    .ok ["cmd", "clipboard", "set", content]

/-! ### Single quotes -/

theorem replaceChar_of_notMem {c : Char} {into l : List Char} (hl : c ∉ l) :
    replaceChar c into l = l := by
  induction l with
  | nil => rfl
  | cons d l ih =>
    have hd : d ≠ c := fun h => hl (by simp [h])
    rw [replaceChar, List.flatMap_cons, if_neg hd]
    show d :: replaceChar c into l = _
    rw [ih (fun h => hl (by simp [h]))]

theorem replaceChar_append (c : Char) (into l k : List Char) :
    replaceChar c into (l ++ k) = replaceChar c into l ++ replaceChar c into k :=
  List.flatMap_append

theorem quote_mem_encodeSpaces {l : List Char} :
    '\'' ∈ replaceChar ' ' ['%', 's'] l ↔ '\'' ∈ l := by
  induction l with
  | nil => simp [replaceChar]
  | cons d l ih =>
    rw [replaceChar, List.flatMap_cons, List.mem_append]
    show _ ∨ '\'' ∈ replaceChar ' ' ['%', 's'] l ↔ _
    rw [ih, List.mem_cons]
    by_cases hd : d = ' '
    · subst d
      simp
    · simp [hd]

/-- The state after `input text '`. -/
def typing : Scan := ⟨.single, false, ["input".toList, "text".toList], []⟩

theorem tokenise_inputText (text : String) : tokenise (inputText text) =
    scan (replaceChar '\'' ['\\', '\''] (encodeSpaces text) ++ ['\'']) typing >>= finish := by
  have hlead : scan "input text '".toList .start = .ok typing := by decide +kernel
  rw [tokenise, inputText]
  simp only [String.toList_append, String.toList_ofList, List.append_assoc]
  rw [scan_append, hlead]
  rfl

theorem inputText_of_notMem {text : String} (h : '\'' ∉ text.toList) : tokenise (inputText text) =
    .ok ["input", "text", String.ofList (encodeSpaces text)] := by
  have henc : '\'' ∉ encodeSpaces text := fun hm => h (quote_mem_encodeSpaces.mp hm)
  rw [tokenise_inputText, replaceChar_of_notMem henc, scan_append, scan_single henc typing rfl rfl]
  rfl

/-- A quote ends the quoted text after a backslash too, and the backslash stays. -/
theorem inputText_of_mem {text : String} (h : '\'' ∈ text.toList) : tokenise (inputText text) ≠
    .ok ["input", "text", String.ofList (encodeSpaces text)] := by
  intro hok
  obtain ⟨a, b, hsplit, ha⟩ := List.eq_append_cons_of_mem (quote_mem_encodeSpaces.mpr h)
  have henc : encodeSpaces text = a ++ '\'' :: b := hsplit
  -- Up to the quote nothing is escaped; there the word has a backslash instead of it.
  have hopen : scan (a ++ ['\\', '\'']) typing =
      .ok ⟨.word, false, ["input".toList, "text".toList], a ++ ['\\']⟩ := by
    rw [scan_append, scan_single ha typing rfl rfl]
    rfl
  have hline : replaceChar '\'' ['\\', '\''] (encodeSpaces text) ++ ['\''] =
      (a ++ ['\\', '\'']) ++ (replaceChar '\'' ['\\', '\''] b ++ ['\'']) := by
    rw [henc, replaceChar_append, replaceChar_of_notMem ha]
    simp [replaceChar]
  rw [tokenise_inputText, hline, scan_append, hopen] at hok
  obtain ⟨w, rest, hwords, hw⟩ := begun_words (.inr ⟨rfl, rfl, List.prefix_rfl⟩) hok
  have hthird : encodeSpaces text = w ∧ rest = [] := by simpa using hwords
  rw [← hthird.1, henc, List.prefix_append_right_inj, List.cons_prefix_cons] at hw
  exact absurd hw.1 (by decide)

/-! ### Double quotes -/

theorem escapeClipboard_eq (content : String) :
    escapeClipboard content = escapeDouble content.toList := by
  rw [escapeClipboard, replaceChar, replaceChar, List.flatMap_assoc, escapeDouble]
  congr 1
  funext c
  by_cases hslash : c = '\\'
  · subst c
    rfl
  by_cases hquote : c = '"'
  · subst c
    rfl
  · simp [hslash, hquote]

/-- A line that ends with the escaped text between double quotes. -/
theorem tokenise_quoted {lead : String} {words : List (List Char)} (content : String)
    (hlead : scan (lead ++ "\"").toList .start = .ok ⟨.double, false, words, []⟩) :
    tokenise (lead ++ "\"" ++ String.ofList (escapeClipboard content) ++ "\"") =
        .ok ((words ++ [content.toList]).map String.ofList) ↔ Inert content.toList := by
  have hline : tokenise (lead ++ "\"" ++ String.ofList (escapeClipboard content) ++ "\"") =
      scan (escapeDouble content.toList ++ ['"']) ⟨.double, false, words, []⟩ >>= finish := by
    rw [tokenise, String.toList_append, String.toList_append, List.append_assoc, scan_append, hlead,
      String.toList_ofList, escapeClipboard_eq]
    rfl
  rw [hline, scan_append, ← expands_eq_false]
  cases hexpands : expands false content.toList with
  | false =>
    obtain ⟨d, hd⟩ := scan_escapeDouble ⟨.double, false, words, []⟩ rfl hexpands
    have hclosed : scan ['"'] ⟨.double, d, words, content.toList⟩ =
        .ok ⟨.word, false, words, content.toList⟩ := by
      cases d <;> rfl
    rw [hd]
    show scan ['"'] ⟨.double, d, words, content.toList⟩ >>= finish = _ ↔ _
    rw [hclosed]
    exact iff_of_true rfl rfl
  | true =>
    obtain ⟨f, hf⟩ := scan_escapeDouble_fault ⟨.double, false, words, []⟩ rfl hexpands
    rw [hf]
    apply iff_of_false
    · intro h
      cases h
    · simp

theorem clipboardUri_iff (content : String) :
    tokenise (clipboardUri (escapeClipboard content)) =
      .ok ["cmd", "clipboard", "set", "--uri", content] ↔ Inert content.toList := by
  have hlead : scan ("cmd clipboard set --uri " ++ "\"").toList .start = .ok ⟨.double, false,
      ["cmd".toList, "clipboard".toList, "set".toList, "--uri".toList], []⟩ := by decide +kernel
  have hquoted := tokenise_quoted content hlead
  unfold clipboardUri
  simpa using hquoted

theorem clipboardPlain_iff (content : String) :
    tokenise (clipboardPlain (escapeClipboard content)) =
      .ok ["cmd", "clipboard", "set", content] ↔ Inert content.toList := by
  have hlead : scan ("cmd clipboard set " ++ "\"").toList .start = .ok ⟨.double, false,
      ["cmd".toList, "clipboard".toList, "set".toList], []⟩ := by decide +kernel
  have hquoted := tokenise_quoted content hlead
  unfold clipboardPlain
  simpa using hquoted

/-- The text stays data exactly when it has no single quote, and nothing that double quotes leave
to the shell. -/
theorem text_is_data_iff (content : String) :
    TextIsData content ↔ '\'' ∉ content.toList ∧ Inert content.toList := by
  constructor
  · intro h
    refine ⟨?_, (clipboardUri_iff content).mp h.pastedUri⟩
    by_contra hquote
    exact inputText_of_mem hquote h.typed
  · rintro ⟨hquote, hinert⟩
    exact ⟨inputText_of_notMem hquote, (clipboardUri_iff content).mpr hinert,
      (clipboardPlain_iff content).mpr hinert⟩

/-- A quote ends the typed text and what follows it runs; a substitution runs as it is pasted. -/
theorem text_runs_as_command : tokenise (sendText "';reboot;#") = .error .operator ∧
    tokenise (clipboardUri (escapeClipboard "$(reboot)")) = .error .substitution ∧
    ¬ ∀ content, TextIsData content := by
  have htyped : tokenise (sendText "';reboot;#") = .error .operator := by decide +kernel
  refine ⟨htyped, by decide +kernel, fun h => ?_⟩
  have hdata := (h "';reboot;#").typed
  rw [show inputText "';reboot;#" = sendText "';reboot;#" from rfl, htyped] at hdata
  cases hdata

/-- Every line that `send_clipboard` comes to is one of these. -/
theorem sendClipboard_lines {succeeds : String → Bool} {content line : String}
    (h : line ∈ sendClipboard succeeds content) : line = clipboardUri (escapeClipboard content) ∨
      line = clipboardPlain (escapeClipboard content) ∨ line = inputText content := by
  unfold sendClipboard at h
  extract_lets escaped at h
  split_ifs at h <;> simp only [List.mem_cons, List.not_mem_nil, or_false] at h <;> tauto

/-- So whatever the device answers, no line is more than its words. -/
theorem TextIsData.sent {content : String} (h : TextIsData content) {succeeds : String → Bool}
    {line : String} (hline : line ∈ sendClipboard succeeds content) :
    ∃ words, tokenise line = .ok words := by
  rcases sendClipboard_lines hline with rfl | rfl | rfl
  · exact ⟨_, h.pastedUri⟩
  · exact ⟨_, h.pastedPlain⟩
  · exact ⟨_, h.typed⟩

end JustRun.Devices
