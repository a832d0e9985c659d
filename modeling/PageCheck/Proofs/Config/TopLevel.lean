import Mathlib
import PageCheck.Proofs.Config.Reload

/-!
# What a configuration file may hold

A file is loaded if it holds a mapping, or a value that counts as none. The latter are more than the
null of an empty file: a file that holds an empty list, a zero or a false is loaded with all defaults,
and only other values are refused as no mapping.
-/

namespace PageCheck

set_option autoImplicit false

namespace Value

/-- The values apart from mappings that stand for nothing, a zero of either sign among them. -/
inductive Vacant : Value → Prop where
  | null : Vacant .null
  | no : Vacant (.bool false)
  | zero : Vacant (.int 0)
  | realZero (negative : Bool) (exponent : Int) : Vacant (.real (.finite negative 0 exponent))
  | text : Vacant (.text "")
  | brokenText : Vacant (.brokenText [])
  | bytes : Vacant (.bytes [])
  | list : Vacant (.list [])
  | set : Vacant (.set [])

def IsMap (v : Value) : Prop := ∃ entries, v = .map entries

theorem isVacant_iff {v : Value} (hKind : ¬ v.IsMap) : v.isVacant = true ↔ v.Vacant := by
  constructor
  · intro h
    cases v with
    | null => exact .null
    | bool b =>
      cases b with
      | false => exact .no
      | true => cases h
    | int n =>
      cases beq_iff_eq.mp h
      exact .zero
    | real x =>
      cases x with
      | finite negative m e =>
        cases beq_iff_eq.mp h
        exact .realZero negative e
      | infinite negative => cases h
      | nan => cases h
    | text s =>
      cases String.isEmpty_iff.mp h
      exact .text
    | brokenText codes =>
      cases List.isEmpty_iff.mp h
      exact .brokenText
    | bytes octets =>
      cases List.isEmpty_iff.mp h
      exact .bytes
    | date d => cases h
    | moment m => cases h
    | list items =>
      cases List.isEmpty_iff.mp h
      exact .list
    | set items =>
      cases List.isEmpty_iff.mp h
      exact .set
    | map entries => exact absurd ⟨entries, rfl⟩ hKind
  · intro h
    cases h <;> rfl

theorem not_isMap_list (items : List Value) : ¬ (list items).IsMap := by
  rintro ⟨entries, hSame⟩
  cases hSame

theorem vacant_list_iff {items : List Value} : (list items).Vacant ↔ items = [] := by
  rw [← isVacant_iff (not_isMap_list items)]
  exact List.isEmpty_iff

end Value

namespace Config

variable {files : Files} {path : Option Path} {language : Language} {v : Value}

/-- The file to load from is written in the language and holds the value. -/
def Holds (files : Files) (path : Option Path) (language : Language) (v : Value) : Prop :=
  ∃ p octets text, source files path = .ok (some p) ∧
    Language.ofSuffix? (String.ofList (Text.lower p.suffix.toList)) = some language ∧
    files.bytes p = .ok octets ∧ Files.textOf octets = .ok text ∧ value language p.text text = .ok v

theorem load_of_holds (h : Holds files path language v) :
    load files path = members language v >>= fun entries => (build files entries).mapError .build := by
  obtain ⟨p, octets, text, hSource, hLanguage, hBytes, hText, hValue⟩ := h
  rw [load_of_source hSource]
  exact loadFile_of_value hLanguage hBytes hText hValue

theorem load_of_map {entries : Members} (h : Holds files path language (.map entries)) :
    load files path = (build files entries).mapError .build := load_of_holds h

theorem load_of_vacant (h : Holds files path language v) (hVacant : v.Vacant) :
    load files path = .ok standard := by
  rw [load_of_holds h]
  cases hVacant <;> rfl

theorem load_of_not_vacant (h : Holds files path language v) (hKind : ¬ v.IsMap) (hSome : ¬ v.Vacant) :
    load files path = .error (.topLevel language v.kindName) := by
  have hNot : v.isVacant = false := by
    rw [Bool.eq_false_iff, ne_eq, Value.isVacant_iff hKind]
    exact hSome
  have hMembers : members language v = .error (.topLevel language v.kindName) := by
    unfold members
    split
    · exact absurd ⟨_, rfl⟩ hKind
    · rw [hNot, if_neg Bool.false_ne_true]
  rw [load_of_holds h, hMembers]
  rfl

end Config

end PageCheck
