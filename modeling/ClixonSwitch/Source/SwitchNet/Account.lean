import ClixonSwitch.Source.SwitchModel.Snmp

/-!
# Setting the admin password

`set_password` of `crates/switch-net/src/account.rs`, with the checks of names and
passwords and the parsing of passwd, group and shadow. `crypt` is the result of
`crypt_r`, and what the script does is given by the outcome of its run.
-/
namespace ClixonSwitch.Source.SwitchNet
open Lib Source.SwitchModel

def minPasswordLen : Nat := 8

def maxPasswordLen : Nat := 128

def maxUsernameLen : Nat := 32

inductive AccountError where
  | invalid (message : String)
  | denied (message : String)
  | failed (message : String)
  deriving DecidableEq, Repr

section Checks

def validatePassword (password : String) : Except AccountError Unit :=
  if password.length < minPasswordLen then
    .error (.invalid s!"the password must have at least {minPasswordLen} characters")
  else if password.length > maxPasswordLen then
    .error (.invalid s!"the password must have at most {maxPasswordLen} characters")
  else if password.toList.any Text.isControl then
    .error (.invalid "the password must not contain control characters")
  else .ok ()

def isAsciiLowercase (c : Char) : Bool := 'a' ≤ c && c ≤ 'z'

/-- The source checks bytes: the bytes of a character outside ASCII are none of these. -/
def validUsername (name : String) : Bool :=
  name.utf8ByteSize ≤ maxUsernameLen &&
    (name.toList.head?.any fun c => isAsciiLowercase c || c == '_') &&
    name.toList.all fun c => isAsciiLowercase c || Text.isAsciiDigit c || c == '_' || c == '-'

def validateUsername (name : String) : Except AccountError Unit :=
  if validUsername name then .ok ()
  else .error (.invalid ("the username must start with a lower case letter or _, followed by " ++
    s!"at most {maxUsernameLen - 1} lower case letters, digits, _ or -"))

end Checks

section Files

/-- The names in /etc/passwd or /etc/group: the first field of each line. -/
def names (text : String) : List String :=
  (((textLines text.toList).filterMap fun line => (line.splitOn ':').head?).map
    String.ofList).filter fun name => !name.isEmpty

/-- The name of the user with `uid` in the text of /etc/passwd. -/
def passwdName (passwd : String) (uid : UInt32) : Option String :=
  (textLines passwd.toList).findSome? fun line => do
    let name ← (line.splitOn ':')[0]?
    let id ← (line.splitOn ':')[2]?
    if Text.parseUnsigned 10 (2 ^ 32) id = some uid.toNat then some (String.ofList name) else none

/-- The password hash of `user` in the text of /etc/shadow; empty if the account has no
password. -/
def shadowHash (shadow user : String) : Option String :=
  (textLines shadow.toList).findSome? fun line =>
    if (line.splitOn ':')[0]? = some user.toList then
      some (String.ofList ((line.splitOn ':')[1]?.getD []))
    else none

end Files

section Matching

/-- `str::as_bytes`. -/
def bytesOf (text : String) : List UInt8 := text.toList.flatMap String.utf8EncodeChar

/-- Compares every byte, so that the time taken does not tell how many matched. -/
def sameBytes (computed hash : List UInt8) : Bool :=
  computed.length == hash.length &&
    (computed.zip hash).foldl (fun acc e => acc ||| (e.1 ^^^ e.2)) 0 == 0

/-- Whether `password` hashes to `hash`. A locked or empty hash never matches, and
neither does a text that is no C string. -/
def passwordMatches (crypt : String → String → Option (List UInt8)) (password hash : String) :
    Bool :=
  if hash.isEmpty || hash.toList.head? == some '!' || hash.toList.head? == some '*' then false
  else if password.toList.contains '\x00' || hash.toList.contains '\x00' then false
  else
    match crypt password hash with
    | none => false
    | some computed => sameBytes computed (bytesOf hash)

end Matching

/-- What `set_password` finds: the configured paths are its own, the files are read when
they are needed. -/
structure AccountConfig where
  uid : UInt32 := 1000
  setupRequired : Bool
  setPassword : String := "/usr/sbin/ethernet-switch-os-set-password"
  passwd : Except AccountError String
  group : Except AccountError String
  shadow : Except AccountError String

structure Invocation where
  program : String
  args : List String
  input : String
  deriving DecidableEq, Repr

/-- How a run ends, if it starts. -/
inductive Outcome where
  | cannotRun (message : String)
  | ioError (message : String)
  | exited (success : Bool) (stderr : String)
  deriving DecidableEq, Repr

def runWithStdin (outcome : Invocation → Outcome) (command : Invocation) :
    Except AccountError Unit :=
  match outcome command with
  | .cannotRun e => .error (.failed s!"cannot run {command.program}: {e}")
  | .ioError e => .error (.failed e)
  | .exited true _ => .ok ()
  | .exited false stderr =>
    .error (.failed (command.program ++ " failed: " ++ String.ofList (Text.trim stderr.toList)))

section SetPassword
variable (c : AccountConfig)

def adminName : Except AccountError String := do
  let passwd ← c.passwd
  match passwdName passwd c.uid with
  | some name => .ok name
  | none => .error (.failed s!"there is no user with UID {c.uid}")

def checkNameFree (name : String) : Except AccountError Unit :=
  [c.passwd, c.group].forM fun file => do
    let text ← file
    if (names text).contains name then
      .error (.invalid s!"the name {name} is taken by a system account")
    else .ok ()

/-- The arguments of the script in the setup, which creates the account. -/
def setupArgs : Option String → Except AccountError (List String)
  | none => .error (.invalid "the username of the admin account is required")
  | some username => do
    validateUsername username
    checkNameFree c username
    pure ["--username", username]

/-- The arguments once there is an account: its password is changed. -/
def changeArgs (crypt : String → String → Option (List UInt8)) :
    Option String → Option String → Except AccountError (List String)
  | some _, _ =>
    .error (.invalid ("the admin account exists: its username is chosen once, during " ++
      "the setup, and stays until a factory reset"))
  | none, none => .error (.denied "the current password is required")
  | none, some current => do
    let user ← adminName c
    let shadow ← c.shadow
    match shadowHash shadow user with
    | none => .error (.failed s!"{user} is not in the shadow file")
    | some hash =>
      if !passwordMatches crypt current hash then .error (.denied "the current password is wrong")
      else pure []

def scriptArgs (crypt : String → String → Option (List UInt8)) (username current : Option String) :
    Except AccountError (List String) :=
  if c.setupRequired then setupArgs c username else changeArgs c crypt username current

/-- The command that a request leads to. -/
def setPasswordCommand (crypt : String → String → Option (List UInt8))
    (username current : Option String) (new : String) : Except AccountError Invocation := do
  let args ← scriptArgs c crypt username current
  validatePassword new
  pure ⟨c.setPassword, args, new ++ "\n"⟩

/-- The result, and the commands that were started for it. -/
def setPassword (crypt : String → String → Option (List UInt8)) (outcome : Invocation → Outcome)
    (username current : Option String) (new : String) :
    Except AccountError Unit × List Invocation :=
  match setPasswordCommand c crypt username current new with
  | .error e => (.error e, [])
  | .ok command => (runWithStdin outcome command, [command])

end SetPassword
end ClixonSwitch.Source.SwitchNet
