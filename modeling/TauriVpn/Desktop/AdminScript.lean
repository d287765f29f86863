import TauriVpn.Errors
import TauriVpn.Lib.ScriptText
import TauriVpn.Text

/-! The commands that the plugin runs as root on macOS. A shell command line quotes the
path of the configuration, and an AppleScript quotes the command line. The two readers of
the other side undo the two quotings, so the path is one piece of one word, whatever
characters it holds. -/

namespace TauriVpn.Desktop

open ShellText AppleScriptText

/-! ### The commands -/

def shellQuote (value : String) : String := "'" ++ replaceText value '\'' "'\\''" ++ "'"

def applescriptString (value : String) : String :=
  "\"" ++ replaceText (replaceText value '\\' "\\\\") '"' "\\\"" ++ "\""

/-- What comes of `osascript` in the time for the approval. -/
inductive OsascriptOutcome where
  | timedOut
  | failed (error : String)
  | exited (success : Bool) (stdout stderr : String)

def adminArguments (shellScript : String) : List String :=
  ["-e", "do shell script " ++ applescriptString shellScript ++ " with administrator privileges"]

/-- What `run_macos_admin_script` makes of the outcome. -/
def adminResult : OsascriptOutcome → Except VpnError String
  | .timedOut => .error (.engine "administrator approval timed out")
  | .failed error => .error (.engine ("failed to request administrator approval: " ++ error))
  | .exited true stdout _ => .ok stdout
  | .exited false _ stderr => .error (.engine ("administrator command failed: " ++ trim stderr))

/-- `run_macos_admin_script`, with what `osascript` does on its arguments. -/
def runMacosAdminScript (osascript : List String → OsascriptOutcome) (shellScript : String) : Except VpnError String :=
  adminResult (osascript (adminArguments shellScript))

def singBoxPattern (configPath : String) : String := "sing-box.*" ++ configPath

/-- `stop_macos_privileged_sing_box`. -/
def stopMacosPrivilegedSingBox (osascript : List String → OsascriptOutcome) (pid : Option UInt32)
    (configPath : String) : Except VpnError Unit :=
  let commands := (pid.map fun pid => "kill " ++ toString pid.toNat).toList ++
    ["pkill -f " ++ shellQuote (singBoxPattern configPath),
      "lsof -tiTCP:2080 -sTCP:LISTEN -a -c sing-box | xargs kill"]
  (runMacosAdminScript osascript ("; ".intercalate commands ++ " 2>/dev/null || true")).map fun _ => ()

/-- What `cleanup_desktop_artifacts_blocking` makes of the status: whether it is a success,
and its text. -/
def cleanupResult : Except String (Bool × String) → Except VpnError Unit
  | .error error => .error (.engine ("failed to request administrator cleanup on macOS: " ++ error))
  | .ok (true, _) => .ok ()
  | .ok (false, status) => .error (.engine ("macOS administrator cleanup exited with status " ++ status))

/-- `cleanup_desktop_artifacts_blocking` on macOS. -/
def cleanupDesktopArtifactsBlocking (listener : Bool) (osascript : List String → Except String (Bool × String))
    (configPath : String) : Except VpnError Unit :=
  if listener then
    let shellScript := "pkill -f " ++ shellQuote (singBoxPattern configPath) ++
      " 2>/dev/null || true; lsof -tiTCP:2080 -sTCP:LISTEN -a -c sing-box | xargs kill 2>/dev/null || true"
    cleanupResult (osascript (adminArguments shellScript))
  else .ok ()

/-! ### What the other side reads -/

/-- The command line that an AppleScript of one `do shell script` hands to the shell. -/
def doShellScript (script : String) : Option (List Char) := do
  let (value, after) ← readLiteral (script.toList.drop "do shell script ".toList.length)
  if "do shell script ".toList.isPrefixOf script.toList && after == " with administrator privileges".toList then
    some value
  else none

/-- The tokens that `osascript` makes the privileged shell execute. -/
def privilegedTokens : List String → Option (List Token)
  | ["-e", script] => (doShellScript script).bind tokens
  | _ => none

def command (words : List String) : List Token := words.map fun w => .word w.toList

def op (text : String) : Token := .operator text.toList

/-- Messages are dropped, and a failure does not count. -/
def silenced : List Token := [.ioNumber ['2'], op ">"] ++ command ["/dev/null"] ++ [op "||"] ++ command ["true"]

def pkillTokens (configPath : String) : List Token := command ["pkill", "-f", singBoxPattern configPath]

def lsofTokens : List Token :=
  command ["lsof", "-tiTCP:2080", "-sTCP:LISTEN", "-a", "-c", "sing-box"] ++ [op "|"] ++ command ["xargs", "kill"] ++
    silenced

def killTokens (pid : Option UInt32) : List Token :=
  (pid.map fun pid => command ["kill", toString pid.toNat] ++ [op ";"]).getD []

def stopTokens (pid : Option UInt32) (configPath : String) : List Token :=
  killTokens pid ++ pkillTokens configPath ++ [op ";"] ++ lsofTokens

def cleanupTokens (configPath : String) : List Token :=
  pkillTokens configPath ++ silenced ++ [op ";"] ++ lsofTokens

/-! ### The two quotings -/

theorem toList_shellQuote (value : String) : (shellQuote value).toList = quote value.toList := by
  have hescaped : (replaceText value '\'' "'\\''").toList = value.toList.flatMap quoteChar := by
    rw [replaceText, String.toList_ofList]
    rfl
  rw [shellQuote, String.toList_append, String.toList_append, hescaped]
  rfl

/-- The backslashes are doubled first, so those of the quotes stay single. -/
theorem toList_applescriptString (value : String) : (applescriptString value).toList = literal value.toList := by
  have hescaped : (replaceText (replaceText value '\\' "\\\\") '"' "\\\"").toList = value.toList.flatMap escapeChar := by
    simp only [replaceText, String.toList_ofList]
    rw [List.flatMap_assoc]
    refine List.flatMap_congr fun c _ => ?_
    by_cases hback : c = '\\'
    · subst hback
      rfl
    · by_cases hquote : c = '"'
      · subst hquote
        rfl
      · simp [escapeChar, hback, hquote]
  rw [applescriptString, String.toList_append, String.toList_append, hescaped]
  rfl

/-- The shell is handed the command line as it was written. -/
theorem privilegedTokens_adminArguments (shellScript : String) :
    privilegedTokens (adminArguments shellScript) = tokens shellScript.toList := by
  have hscript : ("do shell script " ++ applescriptString shellScript ++ " with administrator privileges").toList =
      "do shell script ".toList ++ (literal shellScript.toList ++ " with administrator privileges".toList) := by
    rw [String.toList_append, String.toList_append, toList_applescriptString, List.append_assoc]
  have hfront : "do shell script ".toList.isPrefixOf
      ("do shell script ".toList ++ (literal shellScript.toList ++ " with administrator privileges".toList)) = true :=
    List.isPrefixOf_iff_prefix.mpr (List.prefix_append _ _)
  have hread : doShellScript ("do shell script " ++ applescriptString shellScript ++ " with administrator privileges") =
      some shellScript.toList := by
    rw [doShellScript, hscript, List.drop_left, readLiteral_literal]
    simp only [hfront, Option.bind_eq_bind, Option.bind_some, beq_self_eq_true, Bool.and_self, if_true]
  rw [adminArguments, privilegedTokens, hread, Option.bind_some]

/-! ### The tokens of the two command lines -/

/-- A quoted pattern after `pkill -f ` is its third word. -/
theorem run_pkill (configPath : String) :
    run (.plain none) ("pkill -f " ++ shellQuote (singBoxPattern configPath)).toList =
      some (command ["pkill", "-f"], .plain (some { text := (singBoxPattern configPath).toList, quoted := true })) := by
  have hfront : run (.plain none) "pkill -f ".toList = some (command ["pkill", "-f"], .plain none) := by rfl
  rw [String.toList_append, toList_shellQuote]
  exact run_append_of_eq hfront (run_quote _)

theorem isOrdinary_of_digit {c : Char} (h : isAsciiDigit c = true) : isOrdinary c = true := by
  have hne : ∀ d, isAsciiDigit d = false → c ≠ d := by
    rintro d hd rfl
    rw [hd] at h
    cases h
  simp (disch := decide) [isOrdinary, isBlankChar, isOperator, expands, hne]

theorem run_kill (pid : UInt32) :
    run (.plain none) ("kill " ++ toString pid.toNat ++ "; ").toList =
      some (command ["kill", toString pid.toNat] ++ [op ";"], .plain none) := by
  have hfront : run (.plain none) "kill ".toList = some (command ["kill"], .plain none) := by rfl
  have hdigits : (toString pid.toNat).toList.all isOrdinary = true :=
    List.all_eq_true.mpr fun c hc => isOrdinary_of_digit (isAsciiDigit_of_mem_repr hc)
  have hne : (toString pid.toNat).toList ≠ [] := by
    rw [Nat.toString_eq_repr, Nat.toList_repr]
    exact Nat.toDigits_ne_nil
  have hend : run (.plain (some { text := (toString pid.toNat).toList })) "; ".toList =
      some ([.word (toString pid.toNat).toList, op ";"], .plain none) := by rfl
  rw [String.toList_append, String.toList_append]
  have hword : run (.plain none) ("kill ".toList ++ (toString pid.toNat).toList) =
      some (command ["kill"], .plain (some { text := (toString pid.toNat).toList })) :=
    run_append_of_eq hfront (run_ordinary_word hne hdigits)
  have hrun := run_append_of_eq hword hend
  exact hrun

theorem tokens_lsof :
    tokens "lsof -tiTCP:2080 -sTCP:LISTEN -a -c sing-box | xargs kill 2>/dev/null || true".toList = some lsofTokens := by
  decide +kernel

/-- After the pattern both command lines go on with `lsof`. -/
theorem tokens_pkill_lsof (configPath middle : String) (ts : List Token)
    (hmiddle : run (.plain (some { text := (singBoxPattern configPath).toList, quoted := true })) middle.toList =
      some (.word (singBoxPattern configPath).toList :: ts, .plain none)) :
    tokens ("pkill -f " ++ shellQuote (singBoxPattern configPath) ++ middle ++
        "lsof -tiTCP:2080 -sTCP:LISTEN -a -c sing-box | xargs kill 2>/dev/null || true").toList =
      some (pkillTokens configPath ++ ts ++ lsofTokens) := by
  rw [String.toList_append, String.toList_append, tokens_append (run_append_of_eq (run_pkill configPath) hmiddle),
    tokens_lsof]
  rfl

theorem tokens_stop (pid : Option UInt32) (configPath : String) :
    tokens ("; ".intercalate ((pid.map fun pid => "kill " ++ toString pid.toNat).toList ++
        ["pkill -f " ++ shellQuote (singBoxPattern configPath),
          "lsof -tiTCP:2080 -sTCP:LISTEN -a -c sing-box | xargs kill"]) ++ " 2>/dev/null || true").toList =
      some (stopTokens pid configPath) := by
  have hpkill := tokens_pkill_lsof configPath "; " [op ";"] rfl
  have hlsof : "lsof -tiTCP:2080 -sTCP:LISTEN -a -c sing-box | xargs kill" ++ " 2>/dev/null || true" =
      "lsof -tiTCP:2080 -sTCP:LISTEN -a -c sing-box | xargs kill 2>/dev/null || true" := by simp
  generalize hpattern : "pkill -f " ++ shellQuote (singBoxPattern configPath) = pkill at hpkill ⊢
  cases pid with
  | none =>
    have hjoin : "; ".intercalate [pkill, "lsof -tiTCP:2080 -sTCP:LISTEN -a -c sing-box | xargs kill"] =
        pkill ++ "; " ++ "lsof -tiTCP:2080 -sTCP:LISTEN -a -c sing-box | xargs kill" := rfl
    simp only [Option.map_none, Option.toList_none, List.nil_append]
    rw [hjoin, String.append_assoc, hlsof, hpkill]
    rfl
  | some pid =>
    have hjoin : "; ".intercalate ["kill " ++ toString pid.toNat, pkill,
        "lsof -tiTCP:2080 -sTCP:LISTEN -a -c sing-box | xargs kill"] =
        "kill " ++ toString pid.toNat ++ "; " ++ pkill ++ "; " ++
          "lsof -tiTCP:2080 -sTCP:LISTEN -a -c sing-box | xargs kill" := rfl
    have hsplit : "kill " ++ toString pid.toNat ++ "; " ++ pkill ++ "; " ++
          "lsof -tiTCP:2080 -sTCP:LISTEN -a -c sing-box | xargs kill" ++ " 2>/dev/null || true" =
        "kill " ++ toString pid.toNat ++ "; " ++ (pkill ++ "; " ++
          "lsof -tiTCP:2080 -sTCP:LISTEN -a -c sing-box | xargs kill 2>/dev/null || true") := by
      rw [← hlsof]
      simp only [String.append_assoc]
    simp only [Option.map_some, Option.toList_some, List.singleton_append]
    rw [hjoin, hsplit, String.toList_append, tokens_append (run_kill pid), hpkill]
    rfl

theorem tokens_cleanup (configPath : String) :
    tokens ("pkill -f " ++ shellQuote (singBoxPattern configPath) ++
        " 2>/dev/null || true; lsof -tiTCP:2080 -sTCP:LISTEN -a -c sing-box | xargs kill 2>/dev/null || true").toList =
      some (cleanupTokens configPath) := by
  have hpkill := tokens_pkill_lsof configPath " 2>/dev/null || true; " (silenced ++ [op ";"]) rfl
  have htail : " 2>/dev/null || true; lsof -tiTCP:2080 -sTCP:LISTEN -a -c sing-box | xargs kill 2>/dev/null || true" =
      " 2>/dev/null || true; " ++ "lsof -tiTCP:2080 -sTCP:LISTEN -a -c sing-box | xargs kill 2>/dev/null || true" := by
    simp
  rw [htail, ← String.append_assoc, hpkill, cleanupTokens]
  simp only [List.append_assoc]

/-- Quoting is free of injection. Between blanks the shell reads a quoted text as one word,
AppleScript reads a quoted text as one literal, and so for every path of the configuration
the privileged shell runs exactly the words that the two commands mean. -/
theorem admin_commands_injection_free :
    (∀ before ts, tokens before = some ts → ∀ left right, isBlankChar left = true → isBlankChar right = true →
      ∀ (value : String) after, tokens (before ++ [left] ++ (shellQuote value).toList ++ [right] ++ after) =
        (tokens after).map (ts ++ .word value.toList :: ·)) ∧
    (∀ (value : String) after, readLiteral ((applescriptString value).toList ++ after) = some (value.toList, after)) ∧
    ∀ configPath,
      (∀ pid, ∃ arguments, privilegedTokens arguments = some (stopTokens pid configPath) ∧
        ∀ osascript, stopMacosPrivilegedSingBox osascript pid configPath =
          (adminResult (osascript arguments)).map fun _ => ()) ∧
      ∃ arguments, privilegedTokens arguments = some (cleanupTokens configPath) ∧
        ∀ osascript, cleanupDesktopArtifactsBlocking true osascript configPath = cleanupResult (osascript arguments) := by
  refine ⟨?_, ?_, fun configPath => ⟨fun pid => ?_, ?_⟩⟩
  · intro before ts hbefore left right hleft hright value after
    rw [toList_shellQuote]
    exact tokens_quote_between hbefore hleft hright value.toList after
  · intro value after
    rw [toList_applescriptString]
    exact readLiteral_literal value.toList after
  · exact ⟨adminArguments _, (privilegedTokens_adminArguments _).trans (tokens_stop pid configPath), fun _ => rfl⟩
  · exact ⟨adminArguments _, (privilegedTokens_adminArguments _).trans (tokens_cleanup configPath), fun _ => rfl⟩

/-- A quote, a dollar, a semicolon, a line break and a backslash at the end stay in one word. -/
theorem admin_commands_injection_free_dollar :
    tokens ("pkill -f".toList ++ [' '] ++ (shellQuote "it's; $(reboot)\n\\").toList ++ [' '] ++ "2>/dev/null".toList) =
      some (command ["pkill", "-f", "it's; $(reboot)\n\\"] ++ [.ioNumber ['2'], op ">"] ++ command ["/dev/null"]) := by
  have hbefore : tokens "pkill -f".toList = some (command ["pkill", "-f"]) := rfl
  have hafter : tokens "2>/dev/null".toList = some ([.ioNumber ['2'], op ">"] ++ command ["/dev/null"]) := rfl
  rw [admin_commands_injection_free.1 _ _ hbefore ' ' ' ' rfl rfl, hafter]
  rfl

end TauriVpn.Desktop
