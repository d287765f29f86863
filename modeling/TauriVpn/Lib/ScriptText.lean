import Mathlib.Tactic

/-! Two languages that quote texts, one around the other. A POSIX shell cuts a command
line into words and operators; in single quotes every character stands for itself, and a
single quote is written by leaving the quotes for one character. AppleScript writes a text
between double quotes with backslashes before backslashes and double quotes. Each reader
gives back the text that was quoted and nothing else, by induction on the text. -/

/-! ### The words of a shell -/

namespace ShellText

/-- A word has lost its quotes. The number of a redirection stands directly before it. -/
inductive Token where
  | word (text : List Char)
  | ioNumber (digits : List Char)
  | operator (text : List Char)
  deriving DecidableEq

/-- A word in progress. Empty quotes begin a word that has no characters yet. -/
structure Word where
  text : List Char := []
  quoted : Bool := false
  deriving DecidableEq

/-- What the reader has seen of the token in progress. -/
inductive State where
  | plain (word : Option Word)
  | escape (word : Option Word)
  | single (text : List Char)
  | double (text : List Char)
  | doubleEscape (text : List Char)
  | operator (first : Char)
  deriving DecidableEq

def isBlankChar (c : Char) : Bool := c == ' ' || c == '\t'

def isOperator (c : Char) : Bool := ['|', '&', ';', '<', '>', '(', ')'].contains c

/-- Operators of two characters. A here-document is none of them. -/
def isPair (first second : Char) : Bool :=
  [('|', '|'), ('&', '&'), (';', ';'), ('>', '>'), ('>', '&'), ('<', '&'), ('<', '>'), ('>', '|')].contains
    (first, second)

/-- Outside quotes these begin an expansion, a pattern or a comment. -/
def expands (c : Char) : Bool := ['$', '\x60', '*', '?', '[', '{', '}', '~', '#'].contains c

def Word.isNumber (word : Word) : Bool :=
  !word.quoted && !word.text.isEmpty && word.text.all Char.isDigit

def ended : Option Word → List Token
  | none => []
  | some word => [.word word.text]

/-- An operator ends the word before it, which is a number before a redirection. -/
def endedBefore (operator : Char) : Option Word → List Token
  | none => []
  | some word =>
    if (operator == '<' || operator == '>') && word.isNumber then [.ioNumber word.text] else [.word word.text]

def textOf (word : Option Word) : List Char := (word.map Word.text).getD []

def isQuoted (word : Option Word) : Bool := (word.map Word.quoted).getD false

def stepPlain (word : Option Word) (c : Char) : Option (List Token × State) :=
  if isBlankChar c then some (ended word, .plain none)
  else if c = '\n' then some (ended word ++ [.operator ['\n']], .plain none)
  else if isOperator c then some (endedBefore c word, .operator c)
  else if c = '\'' then some ([], .single (textOf word))
  else if c = '"' then some ([], .double (textOf word))
  else if c = '\\' then some ([], .escape word)
  else if expands c then none
  else some ([], .plain (some { text := textOf word ++ [c], quoted := isQuoted word }))

/-- One character. There is no next state where the words depend on an expansion or on a
here-document. A line break after a backslash is dropped with it. -/
def step : State → Char → Option (List Token × State)
  | .plain word, c => stepPlain word c
  | .escape word, c =>
    if c = '\n' then some ([], .plain word)
    else some ([], .plain (some { text := textOf word ++ [c], quoted := true }))
  | .single text, c =>
    if c = '\'' then some ([], .plain (some { text, quoted := true })) else some ([], .single (text ++ [c]))
  | .double text, c =>
    if c = '"' then some ([], .plain (some { text, quoted := true }))
    else if c = '\\' then some ([], .doubleEscape text)
    else if c = '$' || c = '\x60' then none
    else some ([], .double (text ++ [c]))
  | .doubleEscape text, c =>
    if c = '\n' then some ([], .double text)
    else if ['$', '\x60', '"', '\\'].contains c then some ([], .double (text ++ [c]))
    else some ([], .double (text ++ ['\\', c]))
  | .operator first, c =>
    if isPair first c then some ([.operator [first, c]], .plain none)
    else if first = '<' ∧ c = '<' then none
    else (stepPlain none c).map fun next => (.operator [first] :: next.1, next.2)

def run : State → List Char → Option (List Token × State)
  | state, [] => some ([], state)
  | state, c :: rest =>
    (step state c).bind fun first => (run first.2 rest).map fun more => (first.1 ++ more.1, more.2)

/-- The end of the text, where every quote must be closed. -/
def finish : State → Option (List Token)
  | .plain word => some (ended word)
  | .operator first => some [.operator [first]]
  | _ => none

/-- The tokens of a command line whose words depend on no expansion. -/
def tokens (line : List Char) : Option (List Token) :=
  (run (.plain none) line).bind fun read => (finish read.2).map (read.1 ++ ·)

theorem run_append (state : State) (a b : List Char) :
    run state (a ++ b) = (run state a).bind fun first =>
      (run first.2 b).map fun more => (first.1 ++ more.1, more.2) := by
  induction a generalizing state with
  | nil => simp [run]
  | cons c a ih =>
    simp only [List.cons_append, run, ih]
    cases step state c with
    | none => rfl
    | some first =>
      rw [Option.bind_some, Option.bind_some]
      cases run first.2 a with
      | none => rfl
      | some second => simp [List.append_assoc, Function.comp_def]

/-- The first part of a text is read, then the second from where the first ended. -/
theorem run_append_of_eq {state next last : State} {a b : List Char} {ts us : List Token}
    (ha : run state a = some (ts, next)) (hb : run next b = some (us, last)) :
    run state (a ++ b) = some (ts ++ us, last) := by
  rw [run_append, ha, Option.bind_some, hb, Option.map_some]

/-- A blank ends what stands before it. -/
theorem run_blank {line : List Char} {ts : List Token} (h : tokens line = some ts) {blank : Char}
    (hblank : isBlankChar blank = true) : run (.plain none) (line ++ [blank]) = some (ts, .plain none) := by
  rw [run_append]
  cases hrun : run (.plain none) line with
  | none => simp [tokens, hrun] at h
  | some read =>
    obtain ⟨front, last⟩ := read
    cases last with
    | plain word =>
      have hts : front ++ ended word = ts := by simpa [tokens, hrun, finish] using h
      simp [run, step, stepPlain, hblank, hts]
    | operator first =>
      have hts : front ++ [.operator [first]] = ts := by simpa [tokens, hrun, finish] using h
      have hpair : isPair first blank = false ∧ blank ≠ '<' := by
        obtain rfl | rfl : blank = ' ' ∨ blank = '\t' := by simpa [isBlankChar] using hblank
        · simp [isPair]
        · simp [isPair]
      simp [run, step, stepPlain, hblank, hpair, ended, hts]
    | escape word => simp [tokens, hrun, finish] at h
    | single text => simp [tokens, hrun, finish] at h
    | double text => simp [tokens, hrun, finish] at h
    | doubleEscape text => simp [tokens, hrun, finish] at h

/-- After a text that is read up to between two words, the rest is read on its own. -/
theorem tokens_append {a b : List Char} {ts : List Token} (ha : run (.plain none) a = some (ts, .plain none)) :
    tokens (a ++ b) = (tokens b).map (ts ++ ·) := by
  rw [tokens, run_append, ha, tokens]
  cases hb : run (.plain none) b with
  | none => simp [hb]
  | some read => cases hlast : finish read.2 <;> simp [hb, hlast]

/-! ### Single quotes -/

/-- A single quote leaves the quotes, stands after a backslash and opens them again. -/
def quoteChar (c : Char) : List Char := if c = '\'' then ['\'', '\\', '\'', '\''] else [c]

def quote (text : List Char) : List Char := '\'' :: text.flatMap quoteChar ++ ['\'']

/-- Inside single quotes the written text is taken over character by character. -/
theorem run_single_quoted (before text : List Char) :
    run (.single before) (text.flatMap quoteChar) = some ([], .single (before ++ text)) := by
  induction text generalizing before with
  | nil => simp [run]
  | cons c text ih =>
    have hchar : run (.single before) (quoteChar c) = some ([], .single (before ++ [c])) := by
      by_cases hc : c = '\''
      · subst hc
        -- the quotes are closed, the backslash escapes the quote, the quotes are open again
        rfl
      · simp [quoteChar, hc, run, step]
    have h := run_append_of_eq hchar (ih (before ++ [c]))
    simpa using h

/-- A quoted text is one word in progress, whatever it holds. -/
theorem run_quote (text : List Char) :
    run (.plain none) (quote text) = some ([], .plain (some { text, quoted := true })) := by
  have hopen : run (.plain none) ['\''] = some ([], .single []) := rfl
  have hclose : run (.single text) ['\''] = some ([], .plain (some { text, quoted := true })) := rfl
  exact run_append_of_eq (run_append_of_eq hopen (run_single_quoted [] text)) hclose

/-- Between blanks a quoted text is exactly one word, and what stands around it is read as
if it stood alone. -/
theorem tokens_quote_between {before : List Char} {ts : List Token} (hbefore : tokens before = some ts)
    {left right : Char} (hleft : isBlankChar left = true) (hright : isBlankChar right = true) (text after : List Char) :
    tokens (before ++ [left] ++ quote text ++ [right] ++ after) = (tokens after).map (ts ++ .word text :: ·) := by
  have hend : run (.plain (some { text, quoted := true })) [right] = some ([.word text], .plain none) := by
    simp [run, step, stepPlain, hright, ended]
  have hword := run_append_of_eq (run_quote text) hend
  have hrun := run_append_of_eq (run_blank hbefore hleft) hword
  rw [← List.append_assoc] at hrun
  rw [tokens_append hrun]
  simp

/-- A character that means nothing to the shell. -/
def isOrdinary (c : Char) : Bool :=
  !isBlankChar c && c != '\n' && !isOperator c && c != '\'' && c != '"' && c != '\\' && !expands c

theorem step_ordinary {c : Char} (h : isOrdinary c = true) (word : Option Word) :
    step (.plain word) c = some ([], .plain (some { text := textOf word ++ [c], quoted := isQuoted word })) := by
  simp only [isOrdinary, Bool.and_eq_true, Bool.not_eq_true', bne_iff_ne, ne_eq] at h
  obtain ⟨⟨⟨⟨⟨⟨hblank, hline⟩, hop⟩, hsingle⟩, hdouble⟩, hback⟩, hexpands⟩ := h
  simp [step, stepPlain, hblank, hline, hop, hsingle, hdouble, hback, hexpands]

/-- Ordinary characters are added to the word in progress. -/
theorem run_ordinary {text : List Char} (h : text.all isOrdinary = true) (word : Word) :
    run (.plain (some word)) text = some ([], .plain (some { word with text := word.text ++ text })) := by
  induction text generalizing word with
  | nil => simp [run]
  | cons c text ih =>
    rw [List.all_cons, Bool.and_eq_true] at h
    rw [run, step_ordinary h.1, Option.bind_some, ih h.2]
    simp [textOf, isQuoted]

/-- An ordinary text that is not empty begins a word. -/
theorem run_ordinary_word {text : List Char} (hne : text ≠ []) (h : text.all isOrdinary = true) :
    run (.plain none) text = some ([], .plain (some { text })) := by
  cases text with
  | nil => exact absurd rfl hne
  | cons c text =>
    rw [List.all_cons, Bool.and_eq_true] at h
    rw [run, step_ordinary h.1, Option.bind_some, run_ordinary h.2]
    rfl

end ShellText

/-! ### The string literals of AppleScript -/

namespace AppleScriptText

/-- What a backslash and the character after it stand for. -/
def unescape : Char → Option Char
  | '\\' => some '\\'
  | '"' => some '"'
  | 'n' => some '\n'
  | 'r' => some '\r'
  | 't' => some '\t'
  | _ => none

/-- The value up to the closing quote, and the text after it. -/
def readString : List Char → Option (List Char × List Char)
  | [] => none
  | '"' :: rest => some ([], rest)
  | '\\' :: c :: rest => do
    let d ← unescape c
    let (value, after) ← readString rest
    return (d :: value, after)
  | ['\\'] => none
  | c :: rest => do
    let (value, after) ← readString rest
    return (c :: value, after)

def readLiteral : List Char → Option (List Char × List Char)
  | '"' :: rest => readString rest
  | _ => none

def escapeChar (c : Char) : List Char := if c = '\\' ∨ c = '"' then ['\\', c] else [c]

def literal (text : List Char) : List Char := '"' :: text.flatMap escapeChar ++ ['"']

theorem readString_plain {c : Char} (hquote : c ≠ '"') (hback : c ≠ '\\') (rest : List Char) :
    readString (c :: rest) = (readString rest).map fun read => (c :: read.1, read.2) := by
  rw [readString]
  · cases readString rest <;> rfl
  · exact hquote
  · exact fun d tail h => absurd h hback
  · exact fun h => absurd h hback

theorem readString_escaped (text after : List Char) :
    readString (text.flatMap escapeChar ++ '"' :: after) = some (text, after) := by
  induction text with
  | nil => rfl
  | cons c text ih =>
    rw [List.flatMap_cons, List.append_assoc]
    by_cases hback : c = '\\'
    · subst hback
      simp [escapeChar, readString, unescape, ih]
    by_cases hquote : c = '"'
    · subst hquote
      simp [escapeChar, readString, unescape, ih]
    rw [escapeChar, if_neg (by simp [hback, hquote]), List.singleton_append, readString_plain hquote hback, ih]
    rfl

/-- A literal is read as the text it was made of, and what follows it is left. -/
theorem readLiteral_literal (text after : List Char) : readLiteral (literal text ++ after) = some (text, after) := by
  have h := readString_escaped text after
  simpa [literal, readLiteral] using h

end AppleScriptText
