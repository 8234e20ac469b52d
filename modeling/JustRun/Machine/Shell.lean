import JustRun.Machine.Text

/-!
# The words of a shell line

How a POSIX shell takes a simple command apart: blanks between words, backslash, single and
double quotes, comments and line continuations. A line of which the shell would run more than
these words, or rewrite them, has a fault instead.
-/
namespace JustRun.Machine.Shell

/-- What makes of a line more than a list of words. -/
inductive Fault where
  | expansion
  | substitution
  | operator
  | unterminated
  deriving DecidableEq

inductive Mode where
  | blank
  | word
  | escaped (inside : Bool)
  | single
  | double
  | doubleEscaped
  | comment
  deriving DecidableEq

/-- A character of the word at hand has been read. -/
def Mode.inWord : Mode → Bool
  | .blank => false
  | .escaped inside => inside
  | .comment => false
  | _ => true

/-- `dollar`: the character before is a dollar sign without a backslash. -/
structure Scan where
  mode : Mode
  dollar : Bool
  words : List (List Char)
  current : List Char
  deriving DecidableEq

def Scan.start : Scan := ⟨.blank, false, [], []⟩

def Scan.enter (s : Scan) (m : Mode) : Scan := { s with mode := m, dollar := false }

/-- The characters go to the word at hand. -/
def Scan.push (s : Scan) (l : List Char) (m : Mode) : Scan :=
  { s with mode := m, dollar := false, current := s.current ++ l }

def Scan.close (s : Scan) : Scan := ⟨.blank, false, s.words ++ [s.current], []⟩

/-- A dollar sign, what follows it decides. -/
def Scan.pushDollar (s : Scan) (m : Mode) : Scan := { s.push ['$'] m with dollar := true }

/-- The first character of a parameter's name, or the brace around one. -/
def namesParameter (c : Char) : Bool :=
  c.isAlphanum || c = '_' || c = '{' || c = '@' || c = '*' || c = '#' || c = '?' || c = '-' ||
    c = '$' || c = '!'

/-- What a dollar sign directly before `c` starts. -/
def dollarFault (c : Char) : Option Fault :=
  if c = '(' then some .substitution else if namesParameter c then some .expansion else none

def isOperator (c : Char) : Bool :=
  c = '|' || c = '&' || c = ';' || c = '<' || c = '>' || c = '(' || c = ')' || c = '\n'

def isPattern (c : Char) : Bool := c = '*' || c = '?' || c = '['

/-- A backslash between double quotes escapes these only. -/
def isDoubleSpecial (c : Char) : Bool := c = '$' || c = '`' || c = '"' || c = '\\'

def quotedFault (s : Scan) (c : Char) : Option Fault := if s.dollar then dollarFault c else none

def doubleQuoted (s : Scan) (c : Char) : Except Fault Scan :=
  if c = '\\' then .ok { s with mode := .doubleEscaped }
  else match quotedFault s c with
    | some f => .error f
    | none =>
      if c = '"' then .ok (s.enter .word)
      else if c = '`' then .error .substitution
      else if c = '$' then .ok (s.pushDollar .double)
      else .ok (s.push [c] .double)

/-- A dollar sign before a quote makes another kind of quote of it. -/
def bareFault (s : Scan) (c : Char) : Option Fault :=
  if s.dollar ∧ (c = '\'' ∨ c = '"') then some .expansion
  else if s.dollar then dollarFault c
  else if c = '~' ∧ s.mode = .blank then some .expansion
  else none

def unquoted (s : Scan) (c : Char) : Except Fault Scan :=
  if c = '\\' then .ok { s with mode := .escaped s.mode.inWord }
  else match bareFault s c with
    | some f => .error f
    | none =>
      if isOperator c then .error .operator
      else if isPattern c then .error .expansion
      else if c = '`' then .error .substitution
      else if c = ' ' ∨ c = '\t' then .ok (if s.mode.inWord then s.close else s)
      else if c = '#' ∧ s.mode = .blank then .ok (s.enter .comment)
      else if c = '\'' then .ok (s.enter .single)
      else if c = '"' then .ok (s.enter .double)
      else if c = '$' then .ok (s.pushDollar .word)
      else .ok (s.push [c] .word)

def step (s : Scan) (c : Char) : Except Fault Scan :=
  match s.mode with
  | .blank | .word => unquoted s c
  | .escaped inside =>
    -- A backslash and a newline continue the line and leave nothing behind.
    if c = '\n' then .ok { s with mode := if inside then .word else .blank }
    else .ok (s.push [c] .word)
  | .single => .ok (if c = '\'' then s.enter .word else s.push [c] .single)
  | .double => doubleQuoted s c
  | .doubleEscaped =>
    if c = '\n' then .ok { s with mode := .double }
    else .ok (s.push (if isDoubleSpecial c then [c] else ['\\', c]) .double)
  | .comment => if c = '\n' then .error .operator else .ok s

def finish (s : Scan) : Except Fault (List String) :=
  match s.mode with
  | .blank | .comment => .ok (s.words.map String.ofList)
  | .word => .ok ((s.words ++ [s.current]).map String.ofList)
  | .escaped _ | .single | .double | .doubleEscaped => .error .unterminated

def scan (l : List Char) (s : Scan) : Except Fault Scan := l.foldlM step s

def tokenise (line : String) : Except Fault (List String) := do
  finish (← scan line.toList .start)

example : tokenise "input  text 'a b'\\'c \"$\\\"\" #d" = .ok ["input", "text", "a b'c", "$\""] := by
  decide +kernel

@[simp] theorem scan_nil (s : Scan) : scan [] s = .ok s := rfl

theorem scan_cons (c : Char) (l : List Char) (s : Scan) :
    scan (c :: l) s = step s c >>= scan l := rfl

theorem scan_append (l k : List Char) (s : Scan) : scan (l ++ k) s = scan l s >>= scan k :=
  List.foldlM_append

/-! ### Quoted text -/

/-- Between single quotes every character but the quote stands for itself. -/
theorem scan_single {l : List Char} (hl : '\'' ∉ l) (s : Scan) (hs : s.mode = .single)
    (hd : s.dollar = false) : scan l s = .ok { s with current := s.current ++ l } := by
  induction l generalizing s with
  | nil => simp
  | cons c l ih =>
    have hc : c ≠ '\'' := fun h => hl (by simp [h])
    have hstep : step s c = .ok (s.push [c] .single) := by
      simp [step, hs, hc]
    rw [scan_cons, hstep]
    show scan l (s.push [c] .single) = _
    rw [ih (fun h => hl (by simp [h])) _ rfl rfl]
    simp [Scan.push, hs, hd]

/-- A backslash before what double quotes do not hide, dollar and backquote apart. -/
def escapeDouble (l : List Char) : List Char :=
  l.flatMap fun c => if c = '\\' ∨ c = '"' then ['\\', c] else [c]

/-- Text that expands between double quotes even so; `dollar` as in `Scan`. -/
def expands : Bool → List Char → Bool
  | _, [] => false
  | dollar, c :: l => c = '`' || (dollar && (dollarFault c).isSome) || expands (c = '$') l

/-- `expands`, said of the text as a whole: no backquote, and no dollar sign starts anything. -/
def Inert (l : List Char) : Prop :=
  '`' ∉ l ∧ l.IsChain fun a b => a = '$' → dollarFault b = none

instance (l : List Char) : Decidable (Inert l) := inferInstanceAs (Decidable (_ ∧ _))

theorem expands_eq_false_iff (l : List Char) (dollar : Bool) : expands dollar l = false ↔
    Inert l ∧ (dollar = true → ∀ c ∈ l.head?, dollarFault c = none) := by
  induction l generalizing dollar with
  | nil => simp [expands, Inert]
  | cons c l ih =>
    have hbacktick : dollarFault '`' = none := by decide
    rw [expands, Bool.or_eq_false_iff, Bool.or_eq_false_iff, ih]
    cases l with
    | nil => cases dollar <;> simp [Inert, eq_comm (a := '`')]
    | cons b l =>
      cases dollar <;> simp [Inert, List.isChain_cons_cons, eq_comm (a := '`')] <;> tauto

theorem expands_eq_false {l : List Char} : expands false l = false ↔ Inert l := by
  simp [expands_eq_false_iff]

theorem scan_escapePair {c : Char} (hc : c = '\\' ∨ c = '"') {s : Scan} (hs : s.mode = .double) :
    scan ['\\', c] s = .ok (s.push [c] .double) := by
  have hspecial : isDoubleSpecial c = true := by rcases hc with rfl | rfl <;> decide
  have hline : c ≠ '\n' := by rcases hc with rfl | rfl <;> decide
  have hfirst : step s '\\' = .ok { s with mode := .doubleEscaped } := by
    simp [step, hs, doubleQuoted]
  rw [scan_cons, hfirst]
  show scan [c] { s with mode := .doubleEscaped } = _
  rw [scan_cons]
  simp [step, hline, hspecial, Scan.push]
  rfl

/-- The next character of a text that does not expand joins the word. -/
theorem step_double {c : Char} (hescape : c ≠ '\\') (hquote : c ≠ '"') (hbacktick : c ≠ '`')
    {s : Scan} (hs : s.mode = .double) (hd : s.dollar = true → dollarFault c = none) :
    step s c = .ok { s.push [c] .double with dollar := decide (c = '$') } := by
  have hfault : quotedFault s c = none := by
    rw [quotedFault]
    split
    · exact hd ‹_›
    · rfl
  by_cases hc : c = '$'
  · subst c
    simp [step, hs, doubleQuoted, hfault, Scan.pushDollar]
  · simp [step, hs, doubleQuoted, hfault, hescape, hquote, hbacktick, hc, Scan.push]

theorem escapeDouble_cons_special {c : Char} (hc : c = '\\' ∨ c = '"') (l : List Char) :
    escapeDouble (c :: l) = ['\\', c] ++ escapeDouble l := by
  rw [escapeDouble, List.flatMap_cons, if_pos hc]
  rfl

theorem escapeDouble_cons_plain {c : Char} (hc : ¬ (c = '\\' ∨ c = '"')) (l : List Char) :
    escapeDouble (c :: l) = c :: escapeDouble l := by
  rw [escapeDouble, List.flatMap_cons, if_neg hc]
  rfl

/-- Between double quotes a text that does not expand is read back from its escaped form. -/
theorem scan_escapeDouble {l : List Char} (s : Scan) (hs : s.mode = .double)
    (hl : expands s.dollar l = false) :
    ∃ d, scan (escapeDouble l) s = .ok ⟨.double, d, s.words, s.current ++ l⟩ := by
  induction l generalizing s with
  | nil => exact ⟨s.dollar, by simp [escapeDouble, ← hs]⟩
  | cons c l ih =>
    rw [expands, Bool.or_eq_false_iff, Bool.or_eq_false_iff] at hl
    obtain ⟨⟨hbacktick, hfault⟩, hrest⟩ := hl
    by_cases hc : c = '\\' ∨ c = '"'
    · have hdollar : decide (c = '$') = false := by rcases hc with rfl | rfl <;> decide
      obtain ⟨d, hd⟩ := ih (s.push [c] .double) rfl (by rw [hdollar] at hrest; exact hrest)
      refine ⟨d, ?_⟩
      rw [escapeDouble_cons_special hc, scan_append, scan_escapePair hc hs]
      show scan (escapeDouble l) (s.push [c] .double) = _
      rw [hd]
      simp [Scan.push]
    · have hne : c ≠ '\\' ∧ c ≠ '"' := by tauto
      obtain ⟨d, hd⟩ := ih { s.push [c] .double with dollar := decide (c = '$') } rfl hrest
      refine ⟨d, ?_⟩
      have hnone : s.dollar = true → dollarFault c = none := by
        intro h
        simpa [h] using hfault
      rw [escapeDouble_cons_plain hc, scan_cons,
        step_double hne.1 hne.2 (by simpa using hbacktick) hs hnone]
      show scan (escapeDouble l) { s.push [c] .double with dollar := decide (c = '$') } = _
      rw [hd]
      simp [Scan.push]

/-- A text that expands is not hidden by double quotes and the escapes between them. -/
theorem scan_escapeDouble_fault {l : List Char} (s : Scan) (hs : s.mode = .double)
    (hl : expands s.dollar l = true) : ∃ f, scan (escapeDouble l) s = .error f := by
  induction l generalizing s with
  | nil => simp [expands] at hl
  | cons c l ih =>
    by_cases hc : c = '\\' ∨ c = '"'
    · have hrest : expands (s.push [c] .double).dollar l = true := by
        rcases hc with rfl | rfl <;> cases hd : s.dollar <;>
          simpa [expands, hd, dollarFault, namesParameter, Scan.push] using hl
      obtain ⟨f, hf⟩ := ih _ rfl hrest
      refine ⟨f, ?_⟩
      rw [escapeDouble_cons_special hc, scan_append, scan_escapePair hc hs]
      exact hf
    · have hne : c ≠ '\\' ∧ c ≠ '"' := by tauto
      rw [escapeDouble_cons_plain hc, scan_cons]
      by_cases hfault : s.dollar = true ∧ (dollarFault c).isSome
      · obtain ⟨f, hf⟩ := Option.isSome_iff_exists.mp hfault.2
        exact ⟨f, by simp [step, hs, doubleQuoted, quotedFault, hne.1, hfault.1, hf]; rfl⟩
      by_cases hbacktick : c = '`'
      · subst c
        refine ⟨.substitution, ?_⟩
        cases hd : s.dollar <;> 
          simp [step, hs, doubleQuoted, quotedFault, hd, dollarFault, namesParameter] <;> rfl
      have hrest : expands (decide (c = '$')) l = true := by
        rw [expands, Bool.or_eq_true, Bool.or_eq_true, Bool.and_eq_true] at hl
        rcases hl with (h | h) | h
        · exact absurd (by simpa using h) hbacktick
        · exact absurd h hfault
        · exact h
      have hnone : s.dollar = true → dollarFault c = none := by
        intro h
        simpa [h] using hfault
      rw [step_double hne.1 hne.2 hbacktick hs hnone]
      exact ih { s.push [c] .double with dollar := decide (c = '$') } rfl hrest

/-! ### Words that have begun -/

/-- The word at hand grows, or stays as it is. -/
def Scan.Extends (s s' : Scan) : Prop :=
  s'.words = s.words ∧ (s.mode.inWord = true → s'.mode.inWord = true) ∧ s.current <+: s'.current

theorem Scan.extends_push (s : Scan) (l : List Char) {m : Mode} (hm : m.inWord = true) (d : Bool) :
    s.Extends { s.push l m with dollar := d } :=
  ⟨rfl, fun _ => hm, List.prefix_append _ _⟩

theorem Scan.extends_mode (s : Scan) {m : Mode} (hm : s.mode.inWord = true → m.inWord = true)
    (d : Bool) : s.Extends { s with mode := m, dollar := d } :=
  ⟨rfl, hm, List.prefix_rfl⟩

theorem doubleQuoted_extends {s s' : Scan} {c : Char} (h : doubleQuoted s c = .ok s') :
    s.Extends s' := by
  unfold doubleQuoted at h
  split at h
  · cases h
    exact s.extends_mode (fun _ => rfl) s.dollar
  · split at h
    · cases h
    · split_ifs at h <;> cases h
      · exact s.extends_mode (fun _ => rfl) false
      · exact s.extends_push ['$'] rfl true
      · exact s.extends_push [c] rfl false

theorem unquoted_cases {s s' : Scan} {c : Char} (h : unquoted s c = .ok s') :
    s.Extends s' ∨ (s.mode.inWord = true ∧ s' = s.close) := by
  unfold unquoted at h
  split at h
  · cases h
    exact .inl (s.extends_mode (fun hin => hin) s.dollar)
  · split at h
    · cases h
    · split_ifs at h with _ _ _ _ hin hcomment <;> cases h
      · exact .inr ⟨hin, rfl⟩
      · exact .inl (s.extends_mode (fun hin => hin) s.dollar)
      · refine .inl (s.extends_mode (fun hin => ?_) false)
        simp [hcomment.2, Mode.inWord] at hin
      · exact .inl (s.extends_mode (fun _ => rfl) false)
      · exact .inl (s.extends_mode (fun _ => rfl) false)
      · exact .inl (s.extends_push ['$'] rfl true)
      · exact .inl (s.extends_push [c] rfl false)

/-- A step lets the word at hand grow, or ends it. -/
theorem step_cases {s s' : Scan} {c : Char} (h : step s c = .ok s') :
    s.Extends s' ∨ (s.mode.inWord = true ∧ s' = s.close) := by
  unfold step at h
  split at h
  next => exact unquoted_cases h
  next => exact unquoted_cases h
  next inside hm =>
    split at h <;> cases h
    · refine .inl (s.extends_mode (fun hin => ?_) s.dollar)
      have hinside : inside = true := by
        rw [hm] at hin
        exact hin
      simp [hinside, Mode.inWord]
    · exact .inl (s.extends_push [c] rfl false)
  next =>
    cases h
    split_ifs
    · exact .inl (s.extends_mode (fun _ => rfl) false)
    · exact .inl (s.extends_push [c] rfl false)
  next => exact .inl (doubleQuoted_extends h)
  next =>
    split at h <;> cases h
    · exact .inl (s.extends_mode (fun _ => rfl) s.dollar)
    · exact .inl (s.extends_push _ rfl false)
  next =>
    split_ifs at h
    cases h
    exact .inl (s.extends_mode (fun hin => hin) s.dollar)

/-- After the words `ws` a word has begun with the characters `start`, and may have ended. -/
def Scan.Begun (ws : List (List Char)) (start : List Char) (s : Scan) : Prop :=
  (∃ w rest, s.words = ws ++ w :: rest ∧ start <+: w) ∨
    (s.words = ws ∧ s.mode.inWord = true ∧ start <+: s.current)

theorem begun_step {ws : List (List Char)} {start : List Char} {s s' : Scan} {c : Char}
    (hs : s.Begun ws start) (h : step s c = .ok s') : s'.Begun ws start := by
  rcases hs with ⟨w, rest, hwords, hw⟩ | ⟨hwords, hin, hcurrent⟩
  · rcases step_cases h with ⟨hsame, -, -⟩ | ⟨-, rfl⟩
    · exact .inl ⟨w, rest, hsame.trans hwords, hw⟩
    · exact .inl ⟨w, rest ++ [s.current], by simp [Scan.close, hwords], hw⟩
  · rcases step_cases h with ⟨hsame, hin', hgrows⟩ | ⟨-, rfl⟩
    · exact .inr ⟨hsame.trans hwords, hin' hin, hcurrent.trans hgrows⟩
    · exact .inl ⟨s.current, [], by simp [Scan.close, hwords], hcurrent⟩

theorem begun_scan {ws : List (List Char)} {start : List Char} {l : List Char} {s s' : Scan}
    (hs : s.Begun ws start) (h : scan l s = .ok s') : s'.Begun ws start := by
  induction l generalizing s with
  | nil =>
    cases h
    exact hs
  | cons c l ih =>
    cases hstep : step s c with
    | error f =>
      rw [scan_cons, hstep] at h
      cases h
    | ok t =>
      rw [scan_cons, hstep] at h
      exact ih (begun_step hs hstep) h

theorem begun_finish {ws : List (List Char)} {start : List Char} {s : Scan} {words : List String}
    (hs : s.Begun ws start) (h : finish s = .ok words) :
    ∃ w rest, words.map String.toList = ws ++ w :: rest ∧ start <+: w := by
  unfold finish at h
  rcases hs with ⟨w, rest, hwords, hw⟩ | ⟨hwords, hin, hcurrent⟩
  · split at h <;> cases h
    · exact ⟨w, rest, by simp [hwords, Function.comp_def], hw⟩
    · exact ⟨w, rest, by simp [hwords, Function.comp_def], hw⟩
    · exact ⟨w, rest ++ [s.current], by simp [hwords, Function.comp_def], hw⟩
  · split at h <;> cases h
    next hm => simp [hm, Mode.inWord] at hin
    next hm => simp [hm, Mode.inWord] at hin
    next => exact ⟨s.current, [], by simp [hwords, Function.comp_def], hcurrent⟩

/-- What has begun is a word of the line, when the line is read to its end. -/
theorem begun_words {ws : List (List Char)} {start l : List Char} {s : Scan} {words : List String}
    (hs : s.Begun ws start) (h : scan l s >>= finish = .ok words) :
    ∃ w rest, words.map String.toList = ws ++ w :: rest ∧ start <+: w := by
  cases hscan : scan l s with
  | error f =>
    rw [hscan] at h
    cases h
  | ok t =>
    rw [hscan] at h
    exact begun_finish (begun_scan hs hscan) h

end JustRun.Machine.Shell
