import ClixonSwitch.Source.SwitchNet.Account

/-!
# Who may set the admin password

The script that sets the password is run in two cases: during the setup, to create the
account with a name that nobody has, and later for a caller that knows the current
password. The cases are stated here on the lines and fields of the files.
-/
namespace ClixonSwitch.Guarantees
open Lib Source.SwitchModel Source.SwitchNet

section Requests

def AcceptablePassword (new : String) : Prop :=
  8 ≤ new.length ∧ new.length ≤ 128 ∧ ∀ c ∈ new.toList, Text.isControl c = false

/-- `[a-z_][a-z0-9_-]{0,31}`. -/
def UsernamePattern (name : String) : Prop :=
  ∃ first rest, name.toList = first :: rest ∧ rest.length ≤ 31 ∧
    (isAsciiLowercase first = true ∨ first = '_') ∧
    ∀ c ∈ rest, isAsciiLowercase c = true ∨ Text.isAsciiDigit c = true ∨ c = '_' ∨ c = '-'

/-- Field `i` of a line, fields being separated by colons. -/
def field (line : List Char) (i : Nat) : Option (List Char) := (line.splitOn ':')[i]?

def NameTaken (text name : String) : Prop :=
  ∃ line ∈ textLines text.toList, field line 0 = some name.toList

def HasUid (uid : UInt32) (line : List Char) : Prop :=
  ∃ id, field line 2 = some id ∧ Text.parseUnsigned 10 (2 ^ 32) id = some uid.toNat

/-- The first line that has the property. -/
def FirstLine (text : String) (p : List Char → Prop) (line : List Char) : Prop :=
  ∃ before after, textLines text.toList = before ++ line :: after ∧ p line ∧ ∀ l ∈ before, ¬ p l

def AdminName (passwd : String) (uid : UInt32) (name : String) : Prop :=
  ∃ line, FirstLine passwd (HasUid uid) line ∧ field line 0 = some name.toList

def HashOf (shadow user hash : String) : Prop :=
  ∃ line, FirstLine shadow (fun l => field l 0 = some user.toList) line ∧
    hash.toList = (field line 1).getD []

/-- A hash that `password` has, of an account that is not locked. -/
structure Knows (crypt : String → String → Option (List UInt8)) (password hash : String) : Prop where
  nonempty : hash.toList ≠ []
  unlocked : hash.toList.head? ≠ some '!' ∧ hash.toList.head? ≠ some '*'
  cStrings : '\x00' ∉ password.toList ∧ '\x00' ∉ hash.toList
  same : crypt password hash = some (bytesOf hash)

/-- The requests that are granted, with the arguments of the script. -/
inductive Granted (crypt : String → String → Option (List UInt8)) (uid : UInt32)
    (passwd group shadow : String) :
    Bool → Option String → Option String → List String → Prop
  | setup (name : String) (current : Option String) (pattern : UsernamePattern name)
      (noUser : ¬ NameTaken passwd name) (noGroup : ¬ NameTaken group name) :
      Granted crypt uid passwd group shadow true (some name) current ["--username", name]
  | change (current name hash : String) (admin : AdminName passwd uid name)
      (stored : HashOf shadow name hash) (knows : Knows crypt current hash) :
      Granted crypt uid passwd group shadow false none (some current) []

end Requests

section Checks

theorem validatePassword_ok_iff (new : String) :
    validatePassword new = .ok () ↔ AcceptablePassword new := by
  unfold validatePassword AcceptablePassword minPasswordLen maxPasswordLen
  by_cases hshort : new.length < 8
  · rw [if_pos hshort]
    exact iff_of_false nofun (by omega)
  rw [if_neg hshort]
  by_cases hlong : new.length > 128
  · rw [if_pos hlong]
    exact iff_of_false nofun (by omega)
  rw [if_neg hlong]
  have hlength : 8 ≤ new.length ∧ new.length ≤ 128 := by omega
  rw [← and_assoc, and_iff_right hlength]
  simp

theorem utf8Len_of_ascii {text : List Char} (h : ∀ c ∈ text, c.toNat ≤ 127) :
    String.utf8Len text = text.length := by
  induction text with
  | nil => rfl
  | cons c rest ih =>
    have hc : c.utf8Size = 1 := Char.utf8Size_eq_one_iff.mpr (h c (by simp))
    rw [String.utf8Len_cons, ih fun d hd => h d (by simp [hd]), hc, List.length_cons]

theorem validUsername_iff (name : String) : validUsername name = true ↔ UsernamePattern name := by
  have hsize : name.utf8ByteSize = String.utf8Len name.toList := by
    rw [← String.utf8ByteSize_ofList, String.ofList_toList]
  have hascii : ∀ c : Char,
      (isAsciiLowercase c || Text.isAsciiDigit c || c == '_' || c == '-') = true →
        c.toNat ≤ 127 := by
    intro c hc
    simp only [isAsciiLowercase, Text.isAsciiDigit, Bool.or_eq_true, Bool.and_eq_true,
      decide_eq_true_eq, beq_iff_eq, Char.le_def, UInt32.le_iff_toNat_le] at hc
    rcases hc with ((⟨-, hz⟩ | ⟨-, hnine⟩) | rfl) | rfl
    · exact hz.trans (by decide)
    · exact hnine.trans (by decide)
    · decide
    · decide
  cases htext : name.toList with
  | nil => simp [validUsername, UsernamePattern, htext]
  | cons first rest =>
    constructor
    · intro hvalid
      simp only [validUsername, htext, Bool.and_eq_true, decide_eq_true_eq, List.all_eq_true] at hvalid
      obtain ⟨⟨hlen, hfirst⟩, hall⟩ := hvalid
      rw [hsize, htext, utf8Len_of_ascii fun c hc => hascii c (hall c hc)] at hlen
      refine ⟨first, rest, htext, Nat.le_of_succ_le_succ hlen, by simpa using hfirst, fun c hc => ?_⟩
      simpa [or_assoc] using hall c (by simp [hc])
    · rintro ⟨first', rest', heq, hlen, hfirst, hrest⟩
      obtain ⟨rfl, rfl⟩ := List.cons.inj (htext.symm.trans heq)
      have hall : ∀ c ∈ first :: rest,
          (isAsciiLowercase c || Text.isAsciiDigit c || c == '_' || c == '-') = true := by
        intro c hc
        rcases List.mem_cons.mp hc with rfl | hc
        · rcases hfirst with h | h <;> simp [h]
        · simpa [or_assoc] using hrest c hc
      simp only [validUsername, htext, Bool.and_eq_true, decide_eq_true_eq, List.all_eq_true]
      rw [hsize, htext, utf8Len_of_ascii fun c hc => hascii c (hall c hc)]
      exact ⟨⟨Nat.succ_le_succ hlen, by simpa using hfirst⟩, hall⟩

theorem UsernamePattern.ne_nil {name : String} (h : UsernamePattern name) : name.toList ≠ [] := by
  obtain ⟨first, rest, htext, -⟩ := h
  simp [htext]

theorem mem_names {text name : String} (nonempty : name.toList ≠ []) :
    name ∈ names text ↔ NameTaken text name := by
  have hname : name.isEmpty = false := by
    rw [← Bool.not_eq_true, String.isEmpty_iff]
    rintro rfl
    exact nonempty rfl
  simp only [names, List.mem_filter, List.mem_map, List.mem_filterMap, hname, Bool.not_false,
    and_true, NameTaken, field, List.head?_eq_getElem?]
  constructor
  · rintro ⟨chars, ⟨line, hline, hfield⟩, rfl⟩
    exact ⟨line, hline, by rw [hfield, String.toList_ofList]⟩
  · rintro ⟨line, hline, hfield⟩
    exact ⟨name.toList, ⟨line, hline, hfield⟩, String.ofList_toList⟩

end Checks

section Lookups

theorem field_zero (line : List Char) : ∃ name, field line 0 = some name := by
  unfold field
  cases hfields : line.splitOn ':' with
  | nil => exact absurd hfields (List.splitOn_ne_nil ':' line)
  | cons name rest => exact ⟨name, rfl⟩

/-- A search line by line finds what it reads in the first line that has it. -/
theorem findSome_iff {text : String} {f : List Char → Option String} (p : List Char → Prop)
    (value : List Char → List Char) (hit : ∀ line, p line → f line = some (.ofList (value line)))
    (miss : ∀ line, ¬ p line → f line = none) (result : String) :
    (textLines text.toList).findSome? f = some result ↔
      ∃ line, FirstLine text p line ∧ result.toList = value line := by
  have hnone : ∀ line, f line = none ↔ ¬ p line := fun line =>
    ⟨fun h hp => (Option.some_ne_none _) ((hit line hp).symm.trans h), miss line⟩
  rw [List.findSome?_eq_some_iff]
  constructor
  · rintro ⟨before, line, after, hlines, hline, hbefore⟩
    have hp : p line := by
      by_contra hp
      rw [miss line hp] at hline
      cases hline
    rw [hit line hp] at hline
    refine ⟨line, ⟨before, after, hlines, hp, fun l hl => (hnone l).mp (hbefore l hl)⟩, ?_⟩
    rw [← Option.some.inj hline, String.toList_ofList]
  · rintro ⟨line, ⟨before, after, hlines, hp, hbefore⟩, hresult⟩
    refine ⟨before, line, after, hlines, ?_, fun l hl => (hnone l).mpr (hbefore l hl)⟩
    rw [hit line hp, ← hresult, String.ofList_toList]

theorem passwdName_eq_some (passwd : String) (uid : UInt32) (name : String) :
    passwdName passwd uid = some name ↔ AdminName passwd uid name := by
  have hvalue : ∀ line, field line 0 = some ((field line 0).getD []) := by
    intro line
    obtain ⟨name, hname⟩ := field_zero line
    rw [hname, Option.getD_some]
  unfold passwdName AdminName
  rw [findSome_iff (HasUid uid) (fun line => (field line 0).getD []) ?hit ?miss name]
  case hit =>
    rintro line ⟨id, hid, hparse⟩
    have hid : (line.splitOn ':')[2]? = some id := hid
    have hname : (line.splitOn ':')[0]? = some ((field line 0).getD []) := hvalue line
    simp only [hname, hid, hparse, Option.bind_eq_bind, Option.bind_some, if_true]
  case miss =>
    intro line hline
    have hname : (line.splitOn ':')[0]? = some ((field line 0).getD []) := hvalue line
    cases hid : (line.splitOn ':')[2]? with
    | none => simp [hname]
    | some id =>
      have hparse : Text.parseUnsigned 10 (2 ^ 32) id ≠ some uid.toNat := fun hparse =>
        hline ⟨id, hid, hparse⟩
      simp only [hname, Option.bind_eq_bind, Option.bind_some, if_neg hparse]
  refine exists_congr fun line => and_congr_right fun _ => ?_
  obtain ⟨first, hfirst⟩ := field_zero line
  rw [hfirst, Option.getD_some, Option.some.injEq, eq_comm]

theorem shadowHash_eq_some (shadow user hash : String) :
    shadowHash shadow user = some hash ↔ HashOf shadow user hash :=
  findSome_iff (fun line => field line 0 = some user.toList) (fun line => (field line 1).getD [])
    (fun _ hline => if_pos hline) (fun _ hline => if_neg hline) hash

theorem sameBytes_iff (computed hash : List UInt8) :
    sameBytes computed hash = true ↔ computed = hash := by
  have general : ∀ (as bs : List UInt8) (acc : UInt8), as.length = bs.length →
      ((as.zip bs).foldl (fun acc e => acc ||| (e.1 ^^^ e.2)) acc = 0 ↔ acc = 0 ∧ as = bs) := by
    intro as
    induction as with
    | nil => intro bs acc hlen; simp [List.length_eq_zero_iff.mp hlen.symm]
    | cons a as ih =>
      intro bs acc hlen
      cases bs with
      | nil => cases hlen
      | cons b bs =>
        rw [List.zip_cons_cons, List.foldl_cons, ih bs _ (Nat.succ.inj hlen), UInt8.or_eq_zero_iff,
          UInt8.xor_eq_zero_iff, List.cons.injEq, and_assoc]
  unfold sameBytes
  rw [Bool.and_eq_true, beq_iff_eq, beq_iff_eq]
  constructor
  · rintro ⟨hlen, hzero⟩
    exact ((general computed hash 0 hlen).mp hzero).2
  · rintro rfl
    exact ⟨rfl, (general computed computed 0 rfl).mpr ⟨rfl, rfl⟩⟩

theorem passwordMatches_iff (crypt : String → String → Option (List UInt8))
    (password hash : String) :
    passwordMatches crypt password hash = true ↔ Knows crypt password hash := by
  unfold passwordMatches
  split
  · next hlocked =>
    refine iff_of_false Bool.false_ne_true fun h => ?_
    simp only [Bool.or_eq_true, beq_iff_eq, String.isEmpty_iff] at hlocked
    rcases hlocked with (rfl | hlocked) | hlocked
    · exact h.nonempty rfl
    · exact h.unlocked.1 hlocked
    · exact h.unlocked.2 hlocked
  · next hlocked =>
    simp only [Bool.or_eq_true, beq_iff_eq, String.isEmpty_iff, not_or] at hlocked
    split
    · next hnul =>
      refine iff_of_false Bool.false_ne_true fun h => ?_
      simp only [Bool.or_eq_true, List.contains_iff_mem] at hnul
      exact hnul.elim h.cStrings.1 h.cStrings.2
    · next hnul =>
      simp only [Bool.or_eq_true, List.contains_iff_mem, not_or] at hnul
      have hnonempty : hash.toList ≠ [] := by
        rw [Ne, String.toList_eq_nil_iff]
        exact hlocked.1.1
      cases hcrypt : crypt password hash with
      | none =>
        exact iff_of_false Bool.false_ne_true fun h =>
          Option.some_ne_none _ (h.same.symm.trans hcrypt)
      | some computed =>
        simp only [sameBytes_iff]
        constructor
        · rintro rfl
          exact ⟨hnonempty, ⟨hlocked.1.2, hlocked.2⟩, hnul, hcrypt⟩
        · intro h
          exact Option.some.inj (hcrypt.symm.trans h.same)

end Lookups

section Decision
variable {crypt : String → String → Option (List UInt8)} {uid : UInt32} {flag : Bool}
  {program passwd group shadow : String}

theorem bind_ok_iff {ε α β : Type} {x : Except ε α} {f : α → Except ε β} {b : β} :
    x >>= f = .ok b ↔ ∃ a, x = .ok a ∧ f a = .ok b := by
  cases x with
  | error e => exact iff_of_false nofun fun ⟨_, h, _⟩ => by cases h
  | ok a => exact ⟨fun h => ⟨a, rfl, h⟩, fun ⟨_, h, hf⟩ => by cases h; exact hf⟩

/-- A configuration whose files can be read. -/
def readable (uid : UInt32) (flag : Bool) (program passwd group shadow : String) : AccountConfig :=
  ⟨uid, flag, program, .ok passwd, .ok group, .ok shadow⟩

theorem checkNameFree_ok_iff {name : String} (nonempty : name.toList ≠ []) :
    checkNameFree (readable uid flag program passwd group shadow) name = .ok () ↔
      ¬ NameTaken passwd name ∧ ¬ NameTaken group name := by
  rw [← mem_names nonempty, ← mem_names nonempty]
  by_cases hpasswd : name ∈ names passwd
  · simp [checkNameFree, readable, hpasswd, bind, Except.bind]
  · by_cases hgroup : name ∈ names group <;>
      simp [checkNameFree, readable, hpasswd, hgroup, bind, Except.bind, pure, Except.pure]

theorem setupArgs_ok_iff {username : Option String} {args : List String} :
    setupArgs (readable uid flag program passwd group shadow) username = .ok args ↔
      ∃ name, username = some name ∧ args = ["--username", name] ∧ UsernamePattern name ∧
        ¬ NameTaken passwd name ∧ ¬ NameTaken group name := by
  cases username with
  | none => exact iff_of_false nofun fun ⟨_, h, _⟩ => by cases h
  | some name =>
    have hpattern : validateUsername name = .ok () ↔ UsernamePattern name := by
      rw [← validUsername_iff, validateUsername]
      split <;> simp [*]
    simp only [setupArgs, bind_ok_iff, Option.some.injEq, exists_eq_left']
    constructor
    · rintro ⟨_, hname, _, hfree, hargs⟩
      have pattern := hpattern.mp hname
      exact ⟨(Except.ok.inj hargs).symm, pattern,
        (checkNameFree_ok_iff pattern.ne_nil).mp hfree⟩
    · rintro ⟨rfl, pattern, hfree⟩
      exact ⟨(), hpattern.mpr pattern, (), (checkNameFree_ok_iff pattern.ne_nil).mpr hfree, rfl⟩

theorem adminName_ok_iff {name : String} :
    adminName (readable uid flag program passwd group shadow) = .ok name ↔
      AdminName passwd uid name := by
  rw [← passwdName_eq_some]
  simp only [adminName, readable, bind, Except.bind]
  cases passwdName passwd uid <;> simp

theorem changeArgs_ok_iff {username current : Option String} {args : List String} :
    changeArgs (readable uid flag program passwd group shadow) crypt username current = .ok args ↔
      username = none ∧ args = [] ∧ ∃ password name hash, current = some password ∧
        AdminName passwd uid name ∧ HashOf shadow name hash ∧ Knows crypt password hash := by
  match username, current with
  | some _, _ => exact iff_of_false nofun fun ⟨h, _⟩ => by cases h
  | none, none => exact iff_of_false nofun fun ⟨_, _, _, _, _, h, _⟩ => by cases h
  | none, some password =>
    simp only [changeArgs, bind_ok_iff, adminName_ok_iff, true_and, Option.some.injEq,
      ← passwordMatches_iff, ← shadowHash_eq_some]
    constructor
    · rintro ⟨name, hadmin, text, htext, hargs⟩
      obtain rfl : shadow = text := Except.ok.inj htext
      cases hhash : shadowHash shadow name with
      | none =>
        rw [hhash] at hargs
        cases hargs
      | some hash =>
        simp only [hhash] at hargs
        cases hmatches : passwordMatches crypt password hash with
        | false => simp [hmatches] at hargs
        | true =>
          simp only [hmatches, Bool.not_true, Bool.false_eq_true, if_false] at hargs
          exact ⟨(Except.ok.inj hargs).symm, password, name, hash, rfl, hadmin, hhash, hmatches⟩
    · rintro ⟨rfl, password, name, hash, rfl, hadmin, hhash, hmatches⟩
      refine ⟨name, hadmin, shadow, rfl, ?_⟩
      simp only [hhash, hmatches, Bool.not_true, Bool.false_eq_true, if_false]
      rfl

/-- The arguments are those of a granted request. -/
theorem scriptArgs_ok_iff {username current : Option String} {args : List String} :
    scriptArgs (readable uid flag program passwd group shadow) crypt username current = .ok args ↔
      Granted crypt uid passwd group shadow flag username current args := by
  cases flag with
  | true =>
    rw [scriptArgs, readable, if_pos rfl, ← readable, setupArgs_ok_iff]
    constructor
    · rintro ⟨name, rfl, rfl, pattern, noUser, noGroup⟩
      exact .setup name current pattern noUser noGroup
    · rintro ⟨⟩
      exact ⟨_, rfl, rfl, ‹_›, ‹_›, ‹_›⟩
  | false =>
    rw [scriptArgs, readable, if_neg Bool.false_ne_true, ← readable, changeArgs_ok_iff]
    constructor
    · rintro ⟨rfl, rfl, password, name, hash, rfl, admin, stored, knows⟩
      exact .change password name hash admin stored knows
    · rintro ⟨⟩
      exact ⟨rfl, rfl, _, _, _, rfl, ‹_›, ‹_›, ‹_›⟩

theorem setPasswordCommand_ok_iff {username current : Option String} {new : String}
    {command : Invocation} :
    setPasswordCommand (readable uid flag program passwd group shadow) crypt username current new =
        .ok command ↔
      ∃ args, (AcceptablePassword new ∧
        Granted crypt uid passwd group shadow flag username current args) ∧
        command = ⟨program, args, new ++ "\n"⟩ := by
  unfold setPasswordCommand
  simp only [bind_ok_iff, scriptArgs_ok_iff]
  constructor
  · rintro ⟨args, hgranted, _, hnew, hcommand⟩
    exact ⟨args, ⟨(validatePassword_ok_iff new).mp hnew, hgranted⟩, (Except.ok.inj hcommand).symm⟩
  · rintro ⟨args, ⟨hnew, hgranted⟩, rfl⟩
    exact ⟨args, hgranted, (), (validatePassword_ok_iff new).mpr hnew, rfl⟩

theorem AcceptablePassword.one_line {new : String} (h : AcceptablePassword new) :
    '\n' ∉ new.toList := fun hin =>
  Bool.false_ne_true ((h.2.2 '\n' hin).symm.trans (by decide))

/-- The script is run for the granted requests and for no others, once, with the
arguments of the case and the new password as the only line of its input; otherwise
nothing is run and an error is returned. -/
theorem setPassword_runs_iff_granted (crypt : String → String → Option (List UInt8))
    (outcome : Invocation → Outcome) (uid : UInt32) (flag : Bool)
    (program passwd group shadow : String) (username current : Option String) (new : String) :
    let request := setPassword (readable uid flag program passwd group shadow) crypt outcome
      username current new
    (∀ args, request.2 = [⟨program, args, new ++ "\n"⟩] ↔
      AcceptablePassword new ∧
        Granted crypt uid passwd group shadow flag username current args) ∧
    (request.2 ≠ [] → '\n' ∉ new.toList) ∧
    ((∀ args, ¬ (AcceptablePassword new ∧
        Granted crypt uid passwd group shadow flag username current args)) →
      request.2 = [] ∧ ∃ e, request.1 = .error e) := by
  intro request
  have hgrant : ∀ args, AcceptablePassword new ∧
      Granted crypt uid passwd group shadow flag username current args →
      setPasswordCommand (readable uid flag program passwd group shadow) crypt username current new =
        .ok ⟨program, args, new ++ "\n"⟩ :=
    fun args h => setPasswordCommand_ok_iff.mpr ⟨args, h, rfl⟩
  cases hcommand : setPasswordCommand (readable uid flag program passwd group shadow) crypt username
      current new with
  | error e =>
    have hrequest : request = (.error e, []) := by
      simp only [request, setPassword, hcommand]
    have hnone : ∀ args, ¬ (AcceptablePassword new ∧
        Granted crypt uid passwd group shadow flag username current args) := by
      intro args hgranted
      have hok := hgrant args hgranted
      rw [hcommand] at hok
      cases hok
    rw [hrequest]
    exact ⟨fun args => iff_of_false nofun (hnone args), fun h => absurd rfl h, fun _ => ⟨rfl, e, rfl⟩⟩
  | ok command =>
    obtain ⟨args, hgranted, rfl⟩ := setPasswordCommand_ok_iff.mp hcommand
    have hrequest : request.2 = [⟨program, args, new ++ "\n"⟩] := by
      simp only [request, setPassword, hcommand]
    rw [hrequest]
    refine ⟨fun others => ⟨fun h => ?_, fun h => ?_⟩, fun _ => hgranted.1.one_line,
      fun h => absurd hgranted (h args)⟩
    · simp only [List.cons.injEq, Invocation.mk.injEq, true_and, and_true] at h
      exact h ▸ hgranted
    · have hok := hgrant others h
      rw [hcommand] at hok
      rw [Except.ok.inj hok]

theorem setPassword_runs_iff_granted_setup :
    (setPassword (readable 1000 true "set-password" "root:x:0:0::/root:/bin/sh\n" "users:x:100:\n" "")
      (fun _ _ => none) (fun _ => .exited true "") (some "ops") none "new password").2 =
        [⟨"set-password", ["--username", "ops"], "new password\n"⟩] := by
  have hne : "ops".toList ≠ [] := by decide
  refine ((setPassword_runs_iff_granted (fun _ _ => none) (fun _ => .exited true "") 1000 true
    "set-password" "root:x:0:0::/root:/bin/sh\n" "users:x:100:\n" "" (some "ops") none
    "new password").1 ["--username", "ops"]).mpr ⟨?_, .setup "ops" none ?_ ?_ ?_⟩
  · exact (validatePassword_ok_iff "new password").mp (by decide +kernel)
  · exact (validUsername_iff "ops").mp (by decide +kernel)
  · rw [← mem_names hne]
    decide +kernel
  · rw [← mem_names hne]
    decide +kernel

end Decision
end ClixonSwitch.Guarantees
