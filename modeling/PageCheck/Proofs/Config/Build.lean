import PageCheck.Config
import PageCheck.Proofs.Files.Store
import PageCheck.Proofs.Json.RoundTrip

/-!
# Configurations out of mappings

Every key of a mapping is judged on its own: a field judges its value, and a key of no field is
refused with every value. A mapping is refused for all that is wrong with its keys at once. If
nothing is, only a missing file with the specifications stands in the way of a configuration.

Keys are texts of whole characters: one with a half in it is all that is found wrong with its mapping.
The files are those below the current folder, and their names are texts of whole characters too.
-/

namespace PageCheck

set_option autoImplicit false

open Json (keyed)

namespace Binary64

theorem isPositive_eq (x : Binary64) : x.isPositive = below zero x := by
  cases x with
  | nan => rfl
  | infinite negative => rfl
  | finite negative m e =>
    have hPower : 0 < Nat.pow 2 (e - minExponent).toNat := Nat.pow_pos (by decide)
    have hZero : inSteps false 0 minExponent = 0 := by simp [inSteps]
    simp only [isPositive, below, zero, hZero]
    cases negative with
    | true =>
      have hSteps := Int.natCast_nonneg (m * Nat.pow 2 (e - minExponent).toNat)
      simp only [inSteps, if_true, Bool.not_true, Bool.false_and, eq_comm (a := false),
        decide_eq_false_iff_not]
      omega
    | false =>
      have hProduct : 0 < m * Nat.pow 2 (e - minExponent).toNat ↔ m ≠ 0 := by
        rw [Nat.mul_pos_iff_of_pos_right hPower, Nat.pos_iff_ne_zero]
      simp only [inSteps, Bool.not_false, Bool.true_and, Bool.false_eq_true, if_false,
        Int.natCast_pos, hProduct]
      cases m with
      | zero => rfl
      | succ m => rfl

end Binary64

namespace Config

variable {α : Type} {files : Files} {entries : List (String × Value)} {key : String} {v : Value}
  {c : Config} {d : Draft} {p : Problem}

def fault? : Except Fault α → Option Fault
  | .ok _ => none
  | .error fault => some fault

/-- How each field judges its value, in the order of the fields. -/
def judges : List (String × (Value → Option Fault)) :=
  [("spec_file", fun v => fault? (readPath v)), ("timeout", fun v => fault? (readTimeout v)),
    ("user_agent", fun v => fault? (readText v)),
    ("max_nesting_depth", fun v => fault? (readDepth v))]

/-- What is wrong with a value that is given for a key. -/
def faultOf? (key : String) (v : Value) : Option Fault :=
  match judges.lookup key with
  | some judge => judge v
  | none => some .unknownKey

def blame? (key : String) (v : Value) : Option Problem :=
  (faultOf? key v).map fun fault => ⟨some key, fault⟩

/-- What is wrong with a mapping: the problems of the fields in their order, then those of the other
keys in the order of the mapping. -/
def blamed (entries : List (String × Value)) : List Problem :=
  (keys.filterMap fun key => (entries.lookup key).bind (blame? key)) ++
    (entries.filter (·.1 ∉ keys)).filterMap fun entry => blame? entry.1 entry.2

/-- A field holds what is given for it, and what is usual if nothing is given. -/
structure Takes (entries : List (String × Value)) (name : String) (usual : α)
    (read : Value → Except Fault α) (x : α) : Prop where
  given : ∀ v, (name, v) ∈ entries → read v = .ok x
  absent : name ∉ entries.map (·.1) → x = usual

structure MadeOf (entries : List (String × Value)) (d : Draft) : Prop where
  specFile : Takes entries "spec_file" (standard.specFile.map .path) readPath d.specFile
  timeout : Takes entries "timeout" standard.timeout readTimeout d.timeout
  userAgent : Takes entries "user_agent" standard.userAgent readText d.userAgent
  depth : Takes entries "max_nesting_depth" standard.depth readDepth d.depth

/-- A configuration as it was before its file was looked for. -/
def draft (c : Config) : Draft := ⟨c.specFile.map .path, c.timeout, c.userAgent, c.depth⟩

/-- What every configuration keeps to. -/
structure Sound (c : Config) : Prop where
  timeout_pos : Binary64.below .zero c.timeout = true
  timeout_ne_nan : c.timeout ≠ .nan
  userAgent_ne : c.userAgent ≠ ""
  one_le_depth : 1 ≤ c.depth

/-! The value of a key -/

theorem lookup_eq_some_iff (hKeys : (entries.map (·.1)).Nodup) :
    entries.lookup key = some v ↔ (key, v) ∈ entries := by
  induction entries with
  | nil => simp
  | cons entry entries ih =>
    obtain ⟨name, w⟩ := entry
    rw [List.map_cons, List.nodup_cons] at hKeys
    rw [List.lookup_cons, List.mem_cons, ← ih hKeys.2]
    by_cases hKey : key = name
    · subst hKey
      have hOther : entries.lookup key ≠ some v := fun hFound =>
        hKeys.1 (List.mem_map.mpr ⟨(key, v), (ih hKeys.2).mp hFound, rfl⟩)
      simp only [beq_self_eq_true, Option.some.injEq, hOther, or_false, Prod.mk.injEq, true_and]
      exact eq_comm
    · rw [beq_eq_false_iff_ne.mpr hKey]
      simp only [Prod.mk.injEq, hKey, false_and, false_or]

theorem lookup_eq_none_iff {β : Type} {list : List (String × β)} :
    list.lookup key = none ↔ key ∉ list.map (·.1) := by
  rw [List.lookup_eq_none_iff]
  simp only [bne_iff_ne, ne_eq, List.mem_map, not_exists, not_and]
  exact ⟨fun h entry hMem hKey => h entry hMem hKey.symm, fun h entry hMem hKey => h entry hMem hKey.symm⟩

theorem find?_keyed (entries : List (String × Value)) (name : String) :
    ((keyed entries).find? fun m => isKey name m.1).map (·.2) = entries.lookup name := by
  induction entries with
  | nil => rfl
  | cons entry entries ih =>
    rw [keyed, List.map_cons, List.find?_cons, List.lookup_cons, ← ih]
    simp only [isKey, BEq.comm (a := name)]
    cases entry.1 == name <;> rfl

theorem member?_keyed (hKeys : (entries.map (·.1)).Nodup) (name : String) :
    member? (keyed entries) name = entries.lookup name := by
  have hReverse : (entries.reverse.map (·.1)).Nodup := by
    rw [List.map_reverse, (List.reverse_perm _).nodup_iff]
    exact hKeys
  rw [member?, keyed, ← List.map_reverse]
  refine (find?_keyed entries.reverse name).trans (Option.ext fun v => ?_)
  rw [lookup_eq_some_iff hReverse, lookup_eq_some_iff hKeys, List.mem_reverse]

/-! What is wrong with a mapping -/

theorem faultOf?_of_notMem (h : key ∉ keys) : faultOf? key v = some .unknownKey := by
  have hKeys : keys = judges.map (·.1) := rfl
  rw [faultOf?, lookup_eq_none_iff.mpr (hKeys ▸ h)]

theorem problem?_field (members : Members) (name : String) (usual : α)
    (read : Value → Except Fault α) : problem? (field members name usual read) =
      (member? members name).bind fun v => (fault? (read v)).map fun fault => ⟨some name, fault⟩ := by
  rw [field]
  cases member? members name with
  | none => rfl
  | some v =>
    simp only [Option.bind_some]
    cases read v <;> rfl

theorem unknownKeys_keyed (entries : List (String × Value)) : unknownKeys (keyed entries) =
    (entries.filter (·.1 ∉ keys)).filterMap fun entry => blame? entry.1 entry.2 := by
  rw [unknownKeys, keyed, List.filterMap_map, List.filterMap_filter]
  refine List.filterMap_congr fun entry _ => ?_
  simp only [Function.comp_apply, decide_not, Bool.not_eq_true', decide_eq_false_iff_not]
  split
  · rfl
  · rename_i hMem
    simp [blame?, faultOf?_of_notMem hMem]

theorem problems_keyed (hKeys : (entries.map (·.1)).Nodup) : problems (keyed entries) = blamed entries := by
  rw [problems, blamed, unknownKeys_keyed, specFileField, timeoutField, userAgentField, depthField]
  simp only [problem?_field, member?_keyed hKeys]
  rfl

theorem blamed_eq_nil_iff (hKeys : (entries.map (·.1)).Nodup) :
    blamed entries = [] ↔ ∀ entry ∈ entries, faultOf? entry.1 entry.2 = none := by
  rw [blamed, List.append_eq_nil_iff, List.filterMap_eq_nil_iff, List.filterMap_eq_nil_iff]
  constructor
  · rintro ⟨hFields, hOthers⟩ ⟨key, v⟩ hMem
    by_cases hKey : key ∈ keys
    · have hBlame := hFields key hKey
      rw [(lookup_eq_some_iff hKeys).mpr hMem] at hBlame
      exact Option.map_eq_none_iff.mp hBlame
    · refine Option.map_eq_none_iff.mp (hOthers (key, v) (List.mem_filter.mpr ⟨hMem, ?_⟩))
      exact decide_eq_true hKey
  · intro h
    constructor
    · intro key _
      rw [Option.bind_eq_none_iff]
      intro v hFound
      exact Option.map_eq_none_iff.mpr (h (key, v) ((lookup_eq_some_iff hKeys).mp hFound))
    · intro entry hMem
      exact Option.map_eq_none_iff.mpr (h entry (List.mem_filter.mp hMem).1)

/-- Keys that are looked up in a mapping of another key alone find nothing to be blamed. -/
theorem filterMap_lookup_other {list : List String} (h : key ∉ list) :
    (list.filterMap fun name => (List.lookup name [(key, v)]).bind (blame? name)) = [] := by
  refine List.filterMap_eq_nil_iff.mpr fun name hName => ?_
  have hNot : name ∉ [(key, v)].map (·.1) := by
    rintro (_ | ⟨_, ⟨⟩⟩)
    exact h hName
  rw [lookup_eq_none_iff.mpr hNot, Option.bind_none]

theorem blamed_singleton (key : String) (v : Value) : blamed [(key, v)] = (blame? key v).toList := by
  by_cases hKey : key ∈ keys
  · have hOthers : [(key, v)].filter (·.1 ∉ keys) = [] := by
      simp [hKey]
    have hKeys : keys.Nodup := by decide
    obtain ⟨before, after, hSplit⟩ := List.append_of_mem hKey
    rw [hSplit, List.nodup_append, List.nodup_cons] at hKeys
    have hBefore : key ∉ before := fun hMem => hKeys.2.2 key hMem key List.mem_cons_self rfl
    have hFound : List.lookup key [(key, v)] = some v := by
      rw [List.lookup_cons, beq_self_eq_true]
    rw [blamed, hOthers, hSplit, List.filterMap_append, List.filterMap_cons,
      filterMap_lookup_other hBefore, filterMap_lookup_other hKeys.2.1.1, hFound, Option.bind_some]
    cases blame? key v <;> rfl
  · have hOthers : [(key, v)].filter (·.1 ∉ keys) = [(key, v)] := by
      simp [hKey]
    rw [blamed, filterMap_lookup_other hKey, hOthers, List.nil_append, List.filterMap_cons]
    cases blame? key v <;> rfl

/-! Fields -/

theorem field_elim (P : α → Prop) {members : Members} {name : String} {usual x : α}
    {read : Value → Except Fault α} (h : field members name usual read = .ok x) (hUsual : P usual)
    (hRead : ∀ v y, read v = .ok y → P y) : P x := by
  rw [field] at h
  split at h
  · exact hRead _ x (Files.mapError_eq_ok_iff.mp h)
  · cases h
    exact hUsual

theorem fields_eq_ok_iff {members : Members} : fields members = .ok d ↔
    specFileField members = .ok d.specFile ∧ timeoutField members = .ok d.timeout ∧
      userAgentField members = .ok d.userAgent ∧ depthField members = .ok d.depth := by
  rw [fields, Files.bind_eq_ok_iff]
  simp only [Files.bind_eq_ok_iff]
  constructor
  · rintro ⟨specFile, hSpecFile, timeout, hTimeout, userAgent, hUserAgent, depth, hDepth, hDraft⟩
    cases hDraft
    exact ⟨hSpecFile, hTimeout, hUserAgent, hDepth⟩
  · rintro ⟨hSpecFile, hTimeout, hUserAgent, hDepth⟩
    exact ⟨_, hSpecFile, _, hTimeout, _, hUserAgent, _, hDepth, rfl⟩

theorem field_of_mem (hKeys : (entries.map (·.1)).Nodup) (hMem : (key, v) ∈ entries) (usual : α)
    (read : Value → Except Fault α) : field (keyed entries) key usual read =
      (read v).mapError fun fault => ⟨some key, fault⟩ := by
  rw [field, member?_keyed hKeys, (lookup_eq_some_iff hKeys).mpr hMem]

theorem exists_field (hKeys : (entries.map (·.1)).Nodup) (name : String) (usual : α)
    (read : Value → Except Fault α) (h : ∀ v, (name, v) ∈ entries → fault? (read v) = none) :
    ∃ x, field (keyed entries) name usual read = .ok x ∧ Takes entries name usual read x := by
  by_cases hKey : name ∈ entries.map (·.1)
  · obtain ⟨⟨_, v⟩, hMem, rfl⟩ := List.mem_map.mp hKey
    have hFault := h v hMem
    rw [field_of_mem hKeys hMem]
    cases hRead : read v with
    | error fault =>
      rw [hRead] at hFault
      cases hFault
    | ok x =>
      refine ⟨x, rfl, fun w hOther => ?_, fun hAbsent => absurd hKey hAbsent⟩
      have hSame := (lookup_eq_some_iff hKeys).mpr hMem
      rw [(lookup_eq_some_iff hKeys).mpr hOther] at hSame
      exact Option.some.inj hSame ▸ hRead
  · rw [field, member?_keyed hKeys, lookup_eq_none_iff.mpr hKey]
    exact ⟨usual, rfl, fun v hMem => absurd (List.mem_map_of_mem hMem) hKey, fun _ => rfl⟩

theorem exists_fields (hKeys : (entries.map (·.1)).Nodup)
    (h : ∀ entry ∈ entries, faultOf? entry.1 entry.2 = none) :
    ∃ d, fields (keyed entries) = .ok d ∧ MadeOf entries d := by
  obtain ⟨specFile, hSpecFile, takesSpecFile⟩ := exists_field hKeys "spec_file"
    (standard.specFile.map .path) readPath fun v hMem => h ("spec_file", v) hMem
  obtain ⟨timeout, hTimeout, takesTimeout⟩ := exists_field hKeys "timeout" standard.timeout readTimeout
    fun v hMem => h ("timeout", v) hMem
  obtain ⟨userAgent, hUserAgent, takesUserAgent⟩ := exists_field hKeys "user_agent" standard.userAgent
    readText fun v hMem => h ("user_agent", v) hMem
  obtain ⟨depth, hDepth, takesDepth⟩ := exists_field hKeys "max_nesting_depth" standard.depth readDepth
    fun v hMem => h ("max_nesting_depth", v) hMem
  refine ⟨⟨specFile, timeout, userAgent, depth⟩, ?_, takesSpecFile, takesTimeout, takesUserAgent,
    takesDepth⟩
  exact fields_eq_ok_iff.mpr ⟨hSpecFile, hTimeout, hUserAgent, hDepth⟩

theorem isPositive_of_readTimeout {x : Binary64} (h : readTimeout v = .ok x) : x.isPositive = true := by
  obtain ⟨y, _, hRead⟩ := Files.bind_eq_ok_iff.mp h
  split at hRead
  · rename_i hPositive
    exact Except.ok.inj hRead ▸ hPositive
  · cases hRead

theorem ne_empty_of_readText {s : String} (h : readText v = .ok s) : s ≠ "" := by
  have hText (t : String) (hRead : (if t.isEmpty then .error Fault.shortText else .ok t) = Except.ok s) :
      s ≠ "" := by
    split at hRead
    · cases hRead
    · rename_i hSome
      rw [← Except.ok.inj hRead]
      exact fun hEmpty => hSome (hEmpty ▸ rfl)
  cases v with
  | text t => exact hText t h
  | bytes octets =>
    obtain ⟨t, _, hRead⟩ := Files.bind_eq_ok_iff.mp h
    exact hText t hRead
  | _ => cases h

theorem one_le_of_readDepth {n : Int} (h : readDepth v = .ok n) : 1 ≤ n := by
  obtain ⟨m, _, hRead⟩ := Files.bind_eq_ok_iff.mp h
  split at hRead
  · rename_i hPositive
    exact Except.ok.inj hRead ▸ hPositive
  · cases hRead

theorem sound_of_fields {members : Members} (h : fields members = .ok d) : Sound d.config := by
  obtain ⟨_, hTimeout, hUserAgent, hDepth⟩ := fields_eq_ok_iff.mp h
  have hPositive : d.timeout.isPositive = true :=
    field_elim (·.isPositive = true) hTimeout (by decide +kernel) fun v x => isPositive_of_readTimeout
  refine ⟨Binary64.isPositive_eq d.timeout ▸ hPositive, fun hNan => ?_,
    field_elim (· ≠ "") hUserAgent (by decide) fun v s => ne_empty_of_readText,
    field_elim (1 ≤ ·) hDepth (by decide) fun v n => one_le_of_readDepth⟩
  have hSame : d.timeout = .nan := hNan
  rw [hSame] at hPositive
  cases hPositive

/-! What validation comes to -/

theorem missingFile?_eq_some_iff {e : FileError} : missingFile? files d = some e ↔
    ∃ given, d.specFile = some given ∧ given.isFile files = false ∧ e = ⟨.missing, given.codes⟩ := by
  rw [missingFile?, Option.bind_eq_some_iff]
  refine exists_congr fun given => and_congr_right fun _ => ?_
  cases given.isFile files <;> simp [eq_comm]

theorem config_draft (c : Config) : c.draft.config = c := by
  obtain ⟨specFile, timeout, userAgent, depth⟩ := c
  cases specFile <;> rfl

theorem sound_of_draft {members : Members} (h : fields members = .ok c.draft) : Sound c :=
  config_draft c ▸ sound_of_fields h

/-- What passes for a file is named by a path. -/
theorem draft_config (h : missingFile? files d = none) : d.config.draft = d := by
  obtain ⟨specFile, timeout, userAgent, depth⟩ := d
  cases specFile with
  | none => rfl
  | some given =>
    cases given with
    | path p => rfl
    | broken codes => cases h

theorem of_build_eq_ok {members : Members} (h : build files members = .ok c) :
    fields members = .ok c.draft ∧ missingFile? files c.draft = none := by
  unfold build at h
  split at h
  · cases h
  split at h
  · cases h
  split at h
  · rename_i hFields
    split at h
    · cases h
    · rename_i hMissing
      cases h
      rw [draft_config hMissing]
      exact ⟨hFields, hMissing⟩
  · cases h

theorem build_keyed (files : Files) (entries : List (String × Value)) : build files (keyed entries) =
    match problems (keyed entries), fields (keyed entries) with
    | [], .ok draft =>
      match missingFile? files draft with
      | some e => .error (.specFile e)
      | none => .ok draft.config
    | list, _ => .error (.problems list) := by
  have hTexts : (keyed entries).all (isText ·.1) = true := by
    rw [keyed, List.all_map]
    exact List.all_eq_true.mpr fun _ _ => rfl
  have hWhole : (keyed entries).any (isBroken ·.1) = false := by
    rw [keyed, List.any_map]
    exact List.any_eq_false.mpr fun _ _ => Bool.false_ne_true
  rw [build, hTexts, hWhole]
  rfl

theorem build_of_blamed (hKeys : (entries.map (·.1)).Nodup) (h : blamed entries ≠ []) :
    build files (keyed entries) = .error (.problems (blamed entries)) := by
  rw [build_keyed, problems_keyed hKeys]
  split
  · rename_i hNone _
    exact absurd hNone h
  · rfl

theorem build_of_fields (hKeys : (entries.map (·.1)).Nodup) (h : blamed entries = [])
    (hFields : fields (keyed entries) = .ok d) : build files (keyed entries) =
      match missingFile? files d with
      | some e => .error (.specFile e)
      | none => .ok d.config := by
  rw [build_keyed, problems_keyed hKeys, h, hFields]

/-- A file with the specifications is given, but it is not there. -/
def Missing (files : Files) (entries : List (String × Value)) (given : Given) : Prop :=
  ∃ v, ("spec_file", v) ∈ entries ∧ v ≠ .null ∧ readPath v = .ok (some given) ∧
    given.isFile files = false

theorem MadeOf.missingFile?_eq_some_iff (hMade : MadeOf entries d) {e : FileError} :
    missingFile? files d = some e ↔
      ∃ given, Missing files entries given ∧ e = ⟨.missing, given.codes⟩ := by
  rw [Config.missingFile?_eq_some_iff]
  refine exists_congr fun given => ?_
  constructor
  · rintro ⟨hGiven, hAbsent, rfl⟩
    by_cases hKey : "spec_file" ∈ entries.map (·.1)
    · obtain ⟨⟨_, v⟩, hMem, rfl⟩ := List.mem_map.mp hKey
      have hRead := hMade.specFile.given v hMem
      rw [hGiven] at hRead
      refine ⟨⟨v, hMem, ?_, hRead, hAbsent⟩, rfl⟩
      rintro rfl
      cases hRead
    · cases (hMade.specFile.absent hKey).symm.trans hGiven
  · rintro ⟨⟨v, hMem, _, hRead, hAbsent⟩, rfl⟩
    exact ⟨Except.ok.inj ((hMade.specFile.given v hMem).symm.trans hRead), hAbsent, rfl⟩

/-- What validation comes to on a mapping. -/
structure Validates (files : Files) (entries : List (String × Value)) : Prop where
  refuses : (∃ list, build files (keyed entries) = .error (.problems list)) ↔
    ∃ entry ∈ entries, entry.1 ∉ keys ∨ ∃ fault, faultOf? entry.1 entry.2 = some fault
  lists : ∀ list, build files (keyed entries) = .error (.problems list) → list = blamed entries
  /-- A key is blamed for what it is blamed for if it is given alone. -/
  alone : ∀ entry ∈ entries, ∀ list, build files (keyed [entry]) = .error (.problems list) ↔
    ∃ fault, faultOf? entry.1 entry.2 = some fault ∧ list = [⟨some entry.1, fault⟩]
  misses : ∀ e, build files (keyed entries) = .error (.specFile e) ↔
    (∀ entry ∈ entries, faultOf? entry.1 entry.2 = none) ∧
      ∃ given, Missing files entries given ∧ e = ⟨.missing, given.codes⟩
  accepts : (∀ entry ∈ entries, faultOf? entry.1 entry.2 = none) →
    (∀ given, ¬ Missing files entries given) →
      ∃ c, build files (keyed entries) = .ok c ∧ MadeOf entries c.draft ∧ Sound c

theorem build_ne_problems (hKeys : (entries.map (·.1)).Nodup) (h : blamed entries = []) (list : List Problem) :
    build files (keyed entries) ≠ .error (.problems list) := by
  obtain ⟨d, hFields, _⟩ := exists_fields hKeys ((blamed_eq_nil_iff hKeys).mp h)
  rw [build_of_fields hKeys h hFields]
  cases missingFile? files d <;> nofun

theorem build_eq_problems_iff (hKeys : (entries.map (·.1)).Nodup) {list : List Problem} :
    build files (keyed entries) = .error (.problems list) ↔ list = blamed entries ∧ list ≠ [] := by
  constructor
  · intro h
    have hSome : blamed entries ≠ [] := fun hNone => build_ne_problems hKeys hNone list h
    rw [build_of_blamed hKeys hSome] at h
    cases h
    exact ⟨rfl, hSome⟩
  · rintro ⟨rfl, hSome⟩
    exact build_of_blamed hKeys hSome

theorem build_of_broken {members : Members} (hTexts : members.all (isText ·.1) = true)
    (hBroken : members.any (isBroken ·.1) = true) :
    build files members = .error (.problems [⟨none, .brokenText⟩]) := by
  rw [build, hTexts, hBroken]
  rfl

end Config

end PageCheck
