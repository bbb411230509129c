/-
**The command that opens a browser** (`getOpenBrowserCommand` of `plugins/browser_auth.c`, on Linux).

The command is handed to `system()`, so a shell reads it. The endpoint and the address to return to are the driver's
own; the e-mail is taken from the connection string.

* `openBrowser_iff`: which e-mails reach the browser as they are, and nothing else.
-/

import MaOdbc.Library.Decimal
import MaOdbc.Library.Shell
import MaOdbc.Parse.Unescape

namespace MaOdbc

open List ShellState

namespace BrowserAuth

/-- `PORTAL_SSO_ENDPOINT`. -/
def portalSsoEndpoint : Text := lit "https://portal.singlestore.com/engine-sso"

/-- `LOCAL_TEST_ENDPOINT`. -/
def localTestEndpoint : Text := lit "http://127.0.0.1:18087"

/-- The endpoint that `BrowserAuth` chooses. -/
def endpoint (testEndpoint : Bool) : Text := if testEndpoint then localTestEndpoint else portalSsoEndpoint

/-- The address of the server that `startLocalHttpServer` starts. -/
def serverEndpoint (port : UInt16) : Text := lit "http://127.0.0.1:" ++ decimal port.toNat

def address (endpoint returnTo : Text) (email : Option Text) : Text :=
  endpoint ++ lit "?returnTo=" ++ returnTo ++ email.elim [] (lit "&email=" ++ ·)

/-- `getOpenBrowserCommand`. -/
def getOpenBrowserCommand (returnTo : Text) (email endpoint : Option Text) : Text :=
  lit "xdg-open " ++ lit "\"" ++ address (endpoint.getD portalSsoEndpoint) returnTo email ++ lit "\"" ++ lit " &"

/-- The command that `BrowserAuth` hands to `system()`. -/
def openBrowserCommand (testEndpoint : Bool) (port : UInt16) (email : Option CString) : Text :=
  getOpenBrowserCommand (serverEndpoint port) (email.map CString.text) (some (endpoint testEndpoint))

/-- A shell reads one command with two words, in the background. -/
def OpensAddress (command address : Text) : Prop :=
  start.read command = some [.word (lit "xdg-open"), .word address, .operator (ch '&')]

instance (command address : Text) : Decidable (OpensAddress command address) := inferInstanceAs (Decidable (_ = _))

/-! ### The driver's part of the address -/

theorem keptInDouble_append {first : Text} (plain : ∀ byte ∈ first, isEscapedInDouble byte = false) (second : Text) :
    keptInDouble (first ++ second) = keptInDouble second := by
  induction first with
  | nil => rfl
  | cons byte first ih =>
    obtain ⟨head, tail⟩ := forall_mem_cons.mp plain
    obtain ⟨⟨expands, quote⟩, backslash⟩ : (expandsInDouble byte = false ∧ byte ≠ ch '"') ∧ byte ≠ ch '\\' := by
      simpa [isEscapedInDouble] using head
    rw [cons_append, keptInDouble_cons (by simp [quote, expands]) backslash, ih tail]

theorem plain_of_isDigit {byte : Byte} (digit : isDigit byte = true) : isEscapedInDouble byte = false := by
  have all : ∀ value < 256, isDigit (UInt8.ofNat value) = true → isEscapedInDouble (UInt8.ofNat value) = false := by
    decide +kernel
  have here := all byte.toNat (UInt8.toNat_lt byte)
  rw [UInt8.ofNat_toNat] at here
  exact here digit

def addressHead (testEndpoint : Bool) (port : UInt16) : Text :=
  endpoint testEndpoint ++ lit "?returnTo=" ++ serverEndpoint port

theorem plain_addressHead (testEndpoint : Bool) (port : UInt16) :
    ∀ byte ∈ addressHead testEndpoint port ++ lit "&email=", isEscapedInDouble byte = false := by
  have fixed : ∀ byte ∈ endpoint testEndpoint, isEscapedInDouble byte = false := by
    cases testEndpoint with
    | false | true => decide +kernel
  simp only [addressHead, serverEndpoint, forall_mem_append]
  refine ⟨⟨⟨fixed, by decide⟩, by decide, ?_⟩, by decide⟩
  exact fun byte member => plain_of_isDigit (isDigit_of_mem_decimal member)

theorem read_command (address : Text) :
    start.read (lit "xdg-open " ++ lit "\"" ++ address ++ lit "\"" ++ lit " &") =
      (read ⟨.double, []⟩ (address ++ lit "\" &")).map ([.word (lit "xdg-open")] ++ ·) := by
  have parts : lit "xdg-open " ++ lit "\"" ++ address ++ lit "\"" ++ lit " &" =
      ch 'x' :: (lit "dg-open" ++ ch ' ' :: ch '"' :: (address ++ lit "\" &")) := by
    rw [append_assoc, append_assoc, append_assoc]
    rfl
  have first : start.step (ch 'x') = some ([], ⟨.word, [ch 'x']⟩) := rfl
  have blank : step ⟨.word, lit "xdg-open"⟩ (ch ' ') = some ([.word (lit "xdg-open")], ⟨.between, []⟩) := rfl
  have quote : step ⟨.between, []⟩ (ch '"') = some ([], ⟨.double, []⟩) := rfl
  rw [parts, read_cons_of_quiet first, read_inWord (by decide +kernel)]
  show read ⟨.word, lit "xdg-open"⟩ _ = _
  rw [read_cons_of_step blank, read_cons_of_quiet quote]

/-- **Which e-mails reach the browser as they are**, with nothing else: those that stay as they are in double quotes. -/
theorem openBrowser_iff (testEndpoint : Bool) (port : UInt16) (email : CString) :
    OpensAddress (openBrowserCommand testEndpoint port (some email))
        (address (endpoint testEndpoint) (serverEndpoint port) (some email.text)) ↔
      keptInDouble email.text = true := by
  have parts : address (endpoint testEndpoint) (serverEndpoint port) (some email.text) =
      addressHead testEndpoint port ++ lit "&email=" ++ email.text := by
    rw [address, addressHead, append_assoc _ (lit "&email=")]
    rfl
  have command : openBrowserCommand testEndpoint port (some email) =
      lit "xdg-open " ++ lit "\"" ++ (addressHead testEndpoint port ++ lit "&email=" ++ email.text) ++ lit "\"" ++
        lit " &" := by
    rw [← parts]
    rfl
  rw [OpensAddress, parts, command, read_command]
  generalize shown : addressHead testEndpoint port ++ lit "&email=" ++ email.text = whole
  have kept : keptInDouble whole = keptInDouble email.text := by
    rw [← shown, keptInDouble_append (plain_addressHead testEndpoint port)]
  rw [← kept, ← read_quoted_iff [] whole, nil_append]
  constructor
  · intro reads
    obtain ⟨tokens, found, same⟩ := Option.map_eq_some_iff.mp reads
    rw [found]
    exact congrArg some (List.cons.inj same).2
  · intro reads
    rw [reads]
    rfl

/-- An e-mail that runs a command of its own. -/
theorem openBrowser_fails :
    ¬ OpensAddress (openBrowserCommand false 4000 (some ⟨lit "$(id)@example.com", by decide⟩))
      (address (endpoint false) (serverEndpoint 4000) (some (lit "$(id)@example.com"))) := by
  decide +kernel

end BrowserAuth

end MaOdbc
