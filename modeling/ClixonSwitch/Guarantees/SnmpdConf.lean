import ClixonSwitch.Guarantees.SnmpSound
import ClixonSwitch.Lib.Lines
import ClixonSwitch.Lib.NumberList

/-!
# The lines and words of snmpd.conf

snmpd.conf is read line by line and word by word. With the names, keys and OIDs that
validation accepts, the lines after the header are one for each user, OID, member and
access entry, and each is the words it was written from. Free text stands only in the
header: there a line break would start a line of its own.
-/
namespace ClixonSwitch.Guarantees
open Std Lib Lib.Lines
open Source.SwitchModel

section Words

def userWords (params : SnmpdParams) (name : String) (user : UsmUser) : List String :=
  ["createUser", "-e", "0x" ++ hex params.engineId, name, "SHA", "-l", "0x" ++ hex user.authKey] ++
    match user.privKey with
    | some key => ["AES", "-l", "0x" ++ hex key]
    | none => []

def viewWords (name kind oid : String) : List String := ["view", name, kind, "." ++ oid]

def memberWords (group user : String) : List String := ["group", group, "usm", user]

/-- Access for reading only: no write view and no notify view, and without a read view
none of that either. -/
def accessWords (group : String) (access : SnmpAccess) : List String :=
  ["access", group, "\"\"", "usm", levelWord access.level, "exact", access.readView.getD "none",
    "none", "none"]

/-- What is configured of users, views and groups, in the order of the maps. -/
def bodyWords (snmp : Snmp) (params : SnmpdParams) : List (List String) :=
  snmp.users.toList.map (fun e => userWords params e.1 e.2) ++
    snmp.views.toList.flatMap (fun e =>
      e.2.included.map (viewWords e.1 "included") ++ e.2.excluded.map (viewWords e.1 "excluded")) ++
    snmp.groups.toList.flatMap fun e =>
      e.2.members.toList.map (memberWords e.1) ++ e.2.access.map (accessWords e.1)

theorem toString_text (text : String) : toString text = text := rfl

theorem userLine_eq (params : SnmpdParams) (name : String) (user : UsmUser) :
    userLine params name user = unwords (userWords params name user) := by
  have hengine : "createUser -e 0x" = "createUser" ++ (" " ++ ("-e" ++ (" " ++ "0x"))) := by decide +kernel
  have hauth : " SHA -l 0x" = " " ++ ("SHA" ++ (" " ++ ("-l" ++ (" " ++ "0x")))) := by decide +kernel
  have hpriv : " AES -l 0x" = " " ++ ("AES" ++ (" " ++ ("-l" ++ (" " ++ "0x")))) := by decide +kernel
  unfold userLine userWords unwords
  cases user.privKey with
  | none =>
    simp only [toString_text, List.append_nil, String.intercalate_cons_cons,
      String.intercalate_singleton, String.append_assoc, String.append_empty]
    simp only [hengine, hauth, String.append_assoc]
  | some key =>
    simp only [toString_text, List.cons_append, List.nil_append, String.intercalate_cons_cons,
      String.intercalate_singleton, String.append_assoc]
    simp only [hengine, hauth, hpriv, String.append_assoc]

theorem viewLines_eq (name : String) (view : SnmpView) :
    viewLines name view = (view.included.map (viewWords name "included") ++
      view.excluded.map (viewWords name "excluded")).map unwords := by
  have hview : "view " = "view" ++ " " := rfl
  have hincluded : " included ." = " " ++ ("included" ++ (" " ++ ".")) := rfl
  have hexcluded : " excluded ." = " " ++ ("excluded" ++ (" " ++ ".")) := rfl
  simp only [viewLines, List.map_append, List.map_map, Function.comp_def, viewWords, unwords,
    toString_text, hview, hincluded, hexcluded, String.intercalate_cons_cons,
    String.intercalate_singleton, String.append_assoc]

theorem accessLine_eq (name : String) (access : SnmpAccess) :
    accessLine name access = unwords (accessWords name access) := by
  have haccess : "access " = "access" ++ " " := rfl
  have hcontext : " \"\" usm " = " " ++ ("\"\"" ++ (" " ++ ("usm" ++ " "))) := rfl
  have hexact : " exact " = " " ++ ("exact" ++ " ") := rfl
  have hnone : " none none" = " " ++ ("none" ++ (" " ++ "none")) := rfl
  simp only [accessWords, unwords, String.intercalate_cons_cons, String.intercalate_singleton,
    accessLine, toString_text, haccess, hcontext, hexact, hnone, String.append_assoc]

theorem groupLines_eq (name : String) (group : SnmpGroup) :
    groupLines name group = (group.members.toList.map (memberWords name) ++
      group.access.map (accessWords name)).map unwords := by
  have hgroup : "group " = "group" ++ " " := rfl
  have husm : " usm " = " " ++ ("usm" ++ " ") := rfl
  have haccess : accessLine name = unwords ∘ accessWords name := funext (accessLine_eq name)
  rw [groupLines, List.map_append, List.map_map, List.map_map, haccess]
  congr 1
  simp only [Function.comp_def, memberWords, unwords, toString_text, hgroup, husm,
    String.intercalate_cons_cons, String.intercalate_singleton, String.append_assoc]

theorem snmpdConf_eq (snmp : Snmp) (params : SnmpdParams) :
    snmpdConf snmp params = unlines (headerLines snmp params ++ (bodyWords snmp params).map unwords) := by
  have hbody : (bodyWords snmp params).map unwords =
      snmp.users.toList.map (fun e => userLine params e.1 e.2) ++
      snmp.views.toList.flatMap (fun e => viewLines e.1 e.2) ++
      snmp.groups.toList.flatMap fun e => groupLines e.1 e.2 := by
    simp only [bodyWords, List.map_append, List.map_map, List.map_flatMap, viewLines_eq,
      groupLines_eq, userLine_eq, Function.comp_def]
  rw [snmpdConf, confLines, hbody, unlines]
  simp only [List.append_assoc]

end Words

section Plain

theorem isWord_of_validName {name : String} (h : validName name = true) : IsWord name := by
  rw [validName, Bool.and_eq_true] at h
  exact isWord_of_all h.2 rfl rfl

theorem isWord_of_numericOid {text oid : String} (h : numericOid text = some oid) : IsWord oid := by
  rw [numericOid] at h
  split at h
  · next hcond =>
    obtain rfl := Option.some.inj h
    rw [Bool.and_eq_true, List.all_eq_true] at hcond
    have hparts := hcond.2
    have hnot : ∀ c, Text.digitValue 10 c = none → c ≠ '+' → c ≠ '.' →
        c ∉ stripDot text.toList := by
      intro c hdigit hplus hdot
      have hjoin : ['.'].intercalate ((stripDot text.toList).splitOn '.') =
          stripDot text.toList := List.intercalate_splitOn '.'
      rw [← hjoin]
      refine not_mem_intercalate hdot fun part hpart => ?_
      have hpart := hparts part hpart
      rw [Bool.and_eq_true] at hpart
      exact NumberList.not_mem_of_parseUnsigned hpart.2 hdigit hplus
    rw [IsWord, String.toList_ofList]
    exact ⟨hnot ' ' rfl (by decide) (by decide), hnot '\n' rfl (by decide) (by decide)⟩
  · cases h

theorem isHexDigit_hexOctet (o : UInt8) :
    (hexOctet o).all (fun c => c != ' ' && c != '\n' && c != ':') = true ∧
      Text.parseUnsigned 16 256 (hexOctet o) = some o.toNat := by
  have hall : ∀ n < 256, (hexOctet (UInt8.ofNat n)).all
      (fun c => c != ' ' && c != '\n' && c != ':') = true ∧
      Text.parseUnsigned 16 256 (hexOctet (UInt8.ofNat n)) = some n := by decide +kernel
  have ho := hall o.toNat o.toNat_lt
  rwa [UInt8.ofNat_toNat] at ho

theorem hex_all (octets : List UInt8) :
    (hex octets).toList.all (fun c => c != ' ' && c != '\n' && c != ':') = true := by
  rw [hex, String.toList_ofList, List.all_flatMap, List.all_eq_true]
  exact fun o _ => (isHexDigit_hexOctet o).1

theorem isWord_hex (octets : List UInt8) : IsWord ("0x" ++ hex octets) :=
  IsWord.append (by decide) (isWord_of_all (hex_all octets) rfl rfl)

theorem hexPairs_hex (octets : List UInt8) : hexPairs (octets.flatMap hexOctet) = some octets := by
  induction octets with
  | nil => rfl
  | cons o rest ih =>
    have ho := (isHexDigit_hexOctet o).2
    rw [hexOctet] at ho
    rw [List.flatMap_cons, hexOctet, List.cons_append, List.singleton_append, hexPairs, ho, ih]
    simp

/-- Octets are read back from any text whose characters other than colons are their
digits. -/
theorem hexOctets_of_digits {text : String} {octets : List UInt8} (h : octets ≠ [])
    (digits : text.toList.filter (· != ':') = octets.flatMap hexOctet) :
    hexOctets text = some octets := by
  have hne : octets.flatMap hexOctet ≠ [] := by
    intro hnil
    have hpairs := hexPairs_hex octets
    rw [hnil] at hpairs
    exact h (Option.some.inj hpairs).symm
  rw [hexOctets, digits, hexPairs_hex]
  simp only [List.isEmpty_iff, hne, if_false]

/-- A key is read back from the digits it is written with. -/
theorem hexOctets_hex {octets : List UInt8} (h : octets ≠ []) :
    hexOctets (hex octets) = some octets := by
  refine hexOctets_of_digits h ?_
  have hcolons : (hex octets).toList.filter (· != ':') = (hex octets).toList := by
    rw [List.filter_eq_self]
    intro c hc
    have hchar := List.all_eq_true.mp (hex_all octets) c hc
    simp only [Bool.and_eq_true] at hchar
    exact hchar.2
  rw [hcolons, hex, String.toList_ofList]

end Plain

section Body

/-- What is written of an agent consists of words. -/
structure Wordy (s : Snmp) : Prop where
  users : ∀ name, name ∈ s.users → IsWord name
  views : ∀ (name : String) (v : SnmpView), s.views[name]? = some v →
    IsWord name ∧ ∀ oid, oid ∈ v.included ∨ oid ∈ v.excluded → IsWord oid
  groups : ∀ (name : String) (g : SnmpGroup), s.groups[name]? = some g →
    IsWord name ∧ (∀ user ∈ g.members, IsWord user) ∧
      ∀ a ∈ g.access, ∀ view, a.readView = some view → IsWord view

theorem isWord_of_map_numericOid {entries oids : List String}
    (h : entries.map numericOid = oids.map some) {oid : String} (hoid : oid ∈ oids) : IsWord oid := by
  have hmem : some oid ∈ entries.map numericOid := h ▸ List.mem_map_of_mem hoid
  obtain ⟨text, -, htext⟩ := List.mem_map.mp hmem
  exact isWord_of_numericOid htext

theorem wordy_of_accepted {c : SnmpConfig} {s : Snmp} (h : SnmpAccepted c s) : Wordy s := by
  have husers : ∀ name, name ∈ s.users → IsWord name := by
    intro name hname
    obtain ⟨u, hu⟩ := (BTreeMap.mem_iff s.users name).mp hname
    obtain ⟨user, -, rfl, accepted⟩ := h.users.lookup name u hu
    exact isWord_of_validName accepted.name
  have hviews : ∀ (name : String) (v : SnmpView), s.views[name]? = some v →
      IsWord name ∧ ∀ oid, oid ∈ v.included ∨ oid ∈ v.excluded → IsWord oid := by
    intro name v hv
    obtain ⟨view, -, rfl, accepted⟩ := h.views.lookup name v hv
    refine ⟨isWord_of_validName accepted.name, fun oid hoid => ?_⟩
    rcases hoid with hoid | hoid
    · exact isWord_of_map_numericOid accepted.included hoid
    · exact isWord_of_map_numericOid accepted.excluded hoid
  refine ⟨husers, hviews, fun name g hg => ?_⟩
  obtain ⟨group, -, rfl, accepted⟩ := h.groups.lookup name g hg
  refine ⟨isWord_of_validName accepted.name, fun user huser => husers user (accepted.known user huser),
    fun a ha view hview => ?_⟩
  obtain ⟨v, hv⟩ := (BTreeMap.mem_iff s.views view).mp (accepted.readViews a ha view hview)
  exact (hviews view v hv).1

theorem userWords_plain (params : SnmpdParams) {name : String} (user : UsmUser) (h : IsWord name) :
    ∀ w ∈ userWords params name user, IsWord w := by
  intro w hw
  rw [userWords, List.mem_append] at hw
  rcases hw with hw | hw
  · simp only [List.mem_cons, List.not_mem_nil, or_false] at hw
    rcases hw with rfl | rfl | rfl | rfl | rfl | rfl | rfl
    · decide
    · decide
    · exact isWord_hex _
    · exact h
    · decide
    · decide
    · exact isWord_hex _
  · cases hpriv : user.privKey with
    | none => simp [hpriv] at hw
    | some key =>
      simp only [hpriv, List.mem_cons, List.not_mem_nil, or_false] at hw
      rcases hw with rfl | rfl | rfl
      · decide
      · decide
      · exact isWord_hex _

theorem viewWords_plain {name kind oid : String} (hname : IsWord name) (hkind : IsWord kind)
    (hoid : IsWord oid) : ∀ w ∈ viewWords name kind oid, IsWord w := by
  intro w hw
  simp only [viewWords, List.mem_cons, List.not_mem_nil, or_false] at hw
  rcases hw with rfl | rfl | rfl | rfl
  · decide
  · exact hname
  · exact hkind
  · exact IsWord.append (by decide) hoid

theorem memberWords_plain {group user : String} (hgroup : IsWord group) (huser : IsWord user) :
    ∀ w ∈ memberWords group user, IsWord w := by
  intro w hw
  simp only [memberWords, List.mem_cons, List.not_mem_nil, or_false] at hw
  rcases hw with rfl | rfl | rfl | rfl
  · decide
  · exact hgroup
  · decide
  · exact huser

theorem accessWords_plain {group : String} {access : SnmpAccess} (hgroup : IsWord group)
    (hview : ∀ view, access.readView = some view → IsWord view) :
    ∀ w ∈ accessWords group access, IsWord w := by
  have hlevel : IsWord (levelWord access.level) := by cases access.level <;> decide
  have hread : IsWord (access.readView.getD "none") := by
    cases hr : access.readView with
    | none => decide
    | some view => exact hview view hr
  intro w hw
  simp only [accessWords, List.mem_cons, List.not_mem_nil, or_false] at hw
  rcases hw with rfl | rfl | rfl | rfl | rfl | rfl | rfl | rfl | rfl
  · decide
  · exact hgroup
  · decide
  · decide
  · exact hlevel
  · decide
  · exact hread
  · decide
  · decide

theorem bodyWords_plain {s : Snmp} (h : Wordy s) (params : SnmpdParams) :
    ∀ ws ∈ bodyWords s params, ws ≠ [] ∧ ∀ w ∈ ws, IsWord w := by
  intro ws hws
  rw [bodyWords, List.mem_append, List.mem_append] at hws
  rcases hws with (hws | hws) | hws
  · obtain ⟨e, he, rfl⟩ := List.mem_map.mp hws
    have hlookup := ExtTreeMap.mem_toList_iff_getElem?_eq_some.mp he
    have hname := h.users e.1 ((BTreeMap.mem_iff s.users e.1).mpr ⟨e.2, hlookup⟩)
    exact ⟨by simp [userWords], userWords_plain params e.2 hname⟩
  · obtain ⟨e, he, hin⟩ := List.mem_flatMap.mp hws
    obtain ⟨hname, hoids⟩ := h.views e.1 e.2 (ExtTreeMap.mem_toList_iff_getElem?_eq_some.mp he)
    rcases List.mem_append.mp hin with hin | hin
    · obtain ⟨oid, hoid, rfl⟩ := List.mem_map.mp hin
      exact ⟨by simp [viewWords], viewWords_plain hname (by decide) (hoids oid (Or.inl hoid))⟩
    · obtain ⟨oid, hoid, rfl⟩ := List.mem_map.mp hin
      exact ⟨by simp [viewWords], viewWords_plain hname (by decide) (hoids oid (Or.inr hoid))⟩
  · obtain ⟨e, he, hin⟩ := List.mem_flatMap.mp hws
    obtain ⟨hname, husers, haccess⟩ :=
      h.groups e.1 e.2 (ExtTreeMap.mem_toList_iff_getElem?_eq_some.mp he)
    rcases List.mem_append.mp hin with hin | hin
    · obtain ⟨user, huser, rfl⟩ := List.mem_map.mp hin
      exact ⟨by simp [memberWords],
        memberWords_plain hname (husers user (ExtTreeSet.mem_toList.mp huser))⟩
    · obtain ⟨access, ha, rfl⟩ := List.mem_map.mp hin
      exact ⟨by simp [accessWords], accessWords_plain hname (haccess access ha)⟩

/-- The lines of the header, with those that line breaks in its texts make. -/
def headerPieces (s : Snmp) (params : SnmpdParams) : List String :=
  (headerLines s params).flatMap pieces

/-- The lines after the header are as they were written. -/
theorem lines_snmpdConf {s : Snmp} (h : Wordy s) (params : SnmpdParams) :
    lines (snmpdConf s params) = headerPieces s params ++ (bodyWords s params).map unwords := by
  rw [snmpdConf_eq, lines_unlines, List.flatMap_append, headerPieces]
  congr 1
  refine flatMap_pieces fun l hl => ?_
  obtain ⟨ws, hws, rfl⟩ := List.mem_map.mp hl
  exact newline_not_mem_unwords (bodyWords_plain h params ws hws).2

theorem map_words_body {s : Snmp} (h : Wordy s) (params : SnmpdParams) :
    ((bodyWords s params).map unwords).map words = bodyWords s params := by
  rw [List.map_map]
  refine (List.map_congr_left fun ws hws => ?_).trans (List.map_id _)
  obtain ⟨hne, hplain⟩ := bodyWords_plain h params ws hws
  exact words_unwords hplain hne

theorem wordy_of_validate {tree : Json} {switchPorts : BTreeSet String} {state : DesiredState}
    (accepted : validate tree switchPorts = .ok state) {s : Snmp} (hs : state.snmp = some s) :
    Wordy s := by
  obtain ⟨-, config, -, hstate⟩ := validate_ok.mp accepted
  obtain ⟨c, -, -, hsnmp⟩ := (desiredState_snmp hstate).2 s hs
  exact wordy_of_accepted hsnmp

end Body

section Header

/-- What the lines of the header start with. -/
def headerKeywords (params : SnmpdParams) : List String :=
  ["#", "agentaddress", "exactEngineID", "master", "agentXSocket", "agentXPerms", "sysServices"] ++
    (params.description.map fun _ => "sysDescr").toList ++ ["sysContact", "sysLocation"]

def keyword (line : String) : Option String := (words line).head?

theorem keyword_append {w : String} (h : IsWord w) (rest : String) :
    keyword (w ++ (" " ++ rest)) = some w := by
  have htext : (w ++ (" " ++ rest)).toList = w.toList ++ ' ' :: rest.toList := by simp
  rw [keyword, words, htext, List.splitOn_append_cons_self_of_not_mem h.1]
  simp

theorem headerLines_keywords (s : Snmp) (params : SnmpdParams) :
    (headerLines s params).map keyword = (headerKeywords params).map some := by
  have hline : ∀ (text w rest : String), text = w ++ (" " ++ rest) → IsWord w →
      keyword text = some w := by
    rintro _ w rest rfl hw
    exact keyword_append hw rest
  have hagent : ∀ text, keyword ("agentaddress " ++ text) = some "agentaddress" := fun text =>
    hline _ _ text (by rw [← String.append_assoc]; rfl) (by decide)
  have hengine : ∀ text, keyword ("exactEngineID 0x" ++ text) = some "exactEngineID" := fun text =>
    hline _ _ ("0x" ++ text) (by simp only [← String.append_assoc]; congr 1) (by decide)
  have hsocket : ∀ text, keyword ("agentXSocket unix:" ++ text) = some "agentXSocket" := fun text =>
    hline _ _ ("unix:" ++ text) (by simp only [← String.append_assoc]; congr 1) (by decide)
  have hdescr : ∀ text, keyword ("sysDescr " ++ text) = some "sysDescr" := fun text =>
    hline _ _ text (by rw [← String.append_assoc]; rfl) (by decide)
  have hcontact : ∀ text, keyword ("sysContact " ++ text) = some "sysContact" := fun text =>
    hline _ _ text (by rw [← String.append_assoc]; rfl) (by decide)
  have hlocation : ∀ text, keyword ("sysLocation " ++ text) = some "sysLocation" := fun text =>
    hline _ _ text (by rw [← String.append_assoc]; rfl) (by decide)
  have hfixed : keyword "# Written by the clixon-switch backend plugin from /snmp." = some "#" ∧
      keyword "master agentx" = some "master" ∧
      keyword "agentXPerms 0600 0700" = some "agentXPerms" ∧
      keyword "sysServices 2" = some "sysServices" := by decide +kernel
  obtain ⟨hcomment, hmaster, hperms, hservices⟩ := hfixed
  unfold headerLines headerKeywords
  cases params.description <;>
    simp only [toString_text, Option.map_none, Option.map_some, Option.toList_none,
      Option.toList_some, List.append_nil, List.cons_append, List.nil_append, List.map_cons,
      List.map_nil, hagent, hengine, hsocket, hdescr, hcontact, hlocation, hcomment, hmaster,
      hperms, hservices]

theorem newline_not_mem_listen (l : Listener) :
    '\n' ∉ (s!"udp:{displayAddr l.ip}:{l.port}").toList := by
  have hnumber : ∀ n, '\n' ∉ Nat.toDigits 10 n := NumberList.not_mem_toDigits rfl
  have hport : '\n' ∉ (toString l.port).toList := by
    have htext : (toString l.port).toList = Nat.toDigits 10 l.port.toNat := Nat.toList_repr
    rw [htext]
    exact hnumber l.port.toNat
  simp [displayAddr, toString_text, hnumber, hport]

/-- Without line breaks in its texts the header has the lines that were written. -/
theorem headerPieces_eq {s : Snmp} {params : SnmpdParams}
    (socket : '\n' ∉ params.agentxSocket.toList)
    (description : ∀ d, params.description = some d → '\n' ∉ d.toList)
    (contact : ∀ c, params.system.contact = some c → '\n' ∉ c.toList)
    (location : ∀ l, params.system.location = some l → '\n' ∉ l.toList) :
    headerPieces s params = headerLines s params := by
  have hlisten : '\n' ∉ (String.intercalate ","
      (s.listen.toList.map fun l => s!"udp:{displayAddr l.ip}:{l.port}")).toList := by
    rw [String.toList_intercalate]
    refine not_mem_intercalate (by decide) fun part hpart => ?_
    obtain ⟨_, htext, rfl⟩ := List.mem_map.mp hpart
    obtain ⟨l, -, rfl⟩ := List.mem_map.mp htext
    exact newline_not_mem_listen l
  have hengine : '\n' ∉ (hex params.engineId).toList :=
    (isWord_of_all (hex_all params.engineId) rfl rfl).2
  have hgetD : ∀ value : Option String, (∀ c, value = some c → '\n' ∉ c.toList) →
      '\n' ∉ (value.getD "").toList := by
    intro value h
    cases value with
    | none => simp
    | some c => exact h c rfl
  refine flatMap_pieces fun l hl => ?_
  simp only [headerLines, List.mem_append, List.mem_cons, List.not_mem_nil, or_false,
    Option.mem_toList, Option.map_eq_some_iff] at hl
  rcases hl with ((rfl | rfl | rfl | rfl | rfl | rfl | rfl) | ⟨d, hd, rfl⟩) | (rfl | rfl)
  · decide +kernel
  · rw [String.toList_append, List.mem_append, not_or]
    exact ⟨by decide +kernel, hlisten⟩
  · simp [toString_text, hengine]
  · decide +kernel
  · simp [toString_text, socket]
  · decide +kernel
  · decide +kernel
  · simp [toString_text, description d hd]
  · simp [hgetD _ contact]
  · simp [hgetD _ location]

theorem systemLine_clean {value : Option String} {what : String}
    (clean : (systemLine value what).errors = []) {v : String}
    (hv : (systemLine value what).value = some v) : '\n' ∉ v.toList := by
  unfold systemLine at clean hv
  split at hv
  · cases hv
  · next w hw =>
    simp only [hw, Collect.errors_bind, List.append_eq_nil_iff, checkLine,
      Collect.errors_rejectIf] at clean
    obtain rfl := Option.some.inj hv
    intro hin
    have hcontrol := List.any_eq_false.mp clean.1 '\n' hin
    exact hcontrol rfl

theorem system_of_validate {tree : Json} {switchPorts : BTreeSet String} {state : DesiredState}
    (accepted : validate tree switchPorts = .ok state) :
    (∀ c, state.system.contact = some c → '\n' ∉ c.toList) ∧
      ∀ l, state.system.location = some l → '\n' ∉ l.toList := by
  obtain ⟨-, config, -, hstate⟩ := validate_ok.mp accepted
  obtain ⟨-, -, clean, hsystem⟩ := desiredState_sections hstate
  simp only [systemConfig, Collect.errors_bind, List.append_eq_nil_iff] at clean
  rw [hsystem]
  exact ⟨fun c hc => systemLine_clean clean.1 hc, fun l hl => systemLine_clean clean.2.1 hl⟩

end Header

/-- snmpd.conf has the lines that it was written with, and these have their words. -/
structure WrittenAsConfigured (s : Snmp) (params : SnmpdParams) : Prop where
  lines : lines (snmpdConf s params) = headerLines s params ++ (bodyWords s params).map unwords
  header : (headerLines s params).map keyword = (headerKeywords params).map some
  words : ((Lines.lines (snmpdConf s params)).drop (headerLines s params).length).map Lines.words =
    bodyWords s params
  keys : ∀ (name : String) (u : UsmUser), s.users[name]? = some u →
    hexOctets (hex u.authKey) = some u.authKey ∧
    ∀ key, u.privKey = some key → hexOctets (hex key) = some key

/-- No configured text makes a line or a word of its own. -/
theorem snmpdConf_as_configured (tree : Json) (switchPorts : BTreeSet String) (state : DesiredState)
    (accepted : validate tree switchPorts = .ok state) (s : Snmp) (enabled : state.snmp = some s)
    (params : SnmpdParams) (system : params.system = state.system)
    (socket : '\n' ∉ params.agentxSocket.toList)
    (description : ∀ d, params.description = some d → '\n' ∉ d.toList) :
    WrittenAsConfigured s params := by
  have hwordy := wordy_of_validate accepted enabled
  obtain ⟨hcontact, hlocation⟩ := system_of_validate accepted
  have hlines : Lines.lines (snmpdConf s params) =
      headerLines s params ++ (bodyWords s params).map unwords := by
    rw [lines_snmpdConf hwordy,
      headerPieces_eq socket description (by rwa [system]) (by rwa [system])]
  refine ⟨hlines, headerLines_keywords s params, ?_, fun name u hu => ?_⟩
  · rw [hlines, List.drop_left, map_words_body hwordy]
  · obtain ⟨-, config, -, hstate⟩ := validate_ok.mp accepted
    obtain ⟨c, -, -, hsnmp⟩ := (desiredState_snmp hstate).2 s enabled
    obtain ⟨user, -, -, haccepted⟩ := hsnmp.users.lookup name u hu
    have hne : ∀ {key : List UInt8} {n : Nat}, key.length = n + 1 → key ≠ [] := by
      rintro key n hlen rfl
      cases hlen
    refine ⟨hexOctets_hex (hne haccepted.authLen), fun key hkey => ?_⟩
    rcases haccepted.privLen key hkey with hlen | hlen
    · exact hexOctets_hex (hne hlen)
    · exact hexOctets_hex (hne hlen)

/-- Two groups with access to one view. -/
def twoGroupsTree : Json :=
  agentTree
    [groupEntry "admins" "admin" [accessEntry "" "usm" "auth-priv" (some "all")],
     groupEntry "readers" "monitor" [accessEntry "" "usm" "auth-no-priv" none]]
    [viewEntry "all" ".1.3.6.1"]

def twoGroups : Snmp :=
  agentOf
    [("admins", ⟨ExtTreeSet.ofList ["admin"] compare, [⟨.authPriv, some "all"⟩]⟩),
     ("readers", ⟨ExtTreeSet.ofList ["monitor"] compare, [⟨.authNoPriv, none⟩]⟩)]
    [("all", ⟨["1.3.6.1"], []⟩)]

/-- What is given besides the configuration on a switch. -/
def switchParams : SnmpdParams where
  engineId := defaultEngineId [0x02, 0x00, 0x00, 0x00, 0x00, 0x01]
  agentxSocket := "/var/run/agentx/master"
  system := {}
  description := some "clixon-switch"

theorem snmpdConf_as_configured_groups :
    validate twoGroupsTree ∅ = .ok { snmp := some twoGroups } ∧
      WrittenAsConfigured twoGroups switchParams := by
  have accepted : validate twoGroupsTree ∅ = .ok { snmp := some twoGroups } := by decide +kernel
  refine ⟨accepted, snmpdConf_as_configured twoGroupsTree ∅ _ accepted twoGroups rfl switchParams
    rfl (by decide +kernel) ?_⟩
  rintro _ ⟨⟩
  decide +kernel

end ClixonSwitch.Guarantees
