import BehaviorTraits.Config

/-!
# Values in configurations

What is read from a configuration is a default value or has passed a reader.  So a scan interval is
a positive number that has 32 bits, without a sign (`Config.interval_bounds`).
-/

namespace BehaviorTraits

namespace Yaml.Node

/-- A field has its default value or one that was read. -/
theorem of_fieldOr {α : Type} {fields : List (String × Node)} {name : String}
    {read : Node → Option α} {default a : α} {p : α → Prop} (hdefault : p default)
    (hread : ∀ node a, read node = some a → p a) (h : fieldOr fields name read default = some a) :
    p a := by
  obtain ⟨found, hfound, rfl⟩ := Option.map_eq_some_iff.mp h
  unfold field? at hfound
  split at hfound
  · cases hfound
    exact hdefault
  · obtain ⟨value, hvalue, rfl⟩ := Option.map_eq_some_iff.mp hfound
    exact hread _ value hvalue
  · cases hfound

/-- A number that is read fits into 32 bits. -/
theorem word?_lt {document node : Node} {n : Nat} (h : word? document node = some n) :
    n < 4294967296 := by
  obtain ⟨-, hlt⟩ := Option.filter_eq_some_iff.mp h
  exact of_decide_eq_true hlt

/-- An optional value that is there has been read. -/
theorem of_optional? {α : Type} {document node : Node} {read : Node → Option α} {a : α}
    (h : optional? document read node = some (some a)) : read node = some a := by
  have hsome : ∀ {found : Option α}, found.map some = some (some a) → found = some a := by
    intro found hfound
    obtain ⟨b, rfl, hb⟩ := Option.map_eq_some_iff.mp hfound
    exact hb
  unfold optional? at h
  split at h
  · split at h
    · cases h
    · exact hsome h
  · split at h
    · split at h <;> cases h
    · exact hsome h
  · exact hsome h

end Yaml.Node

/-- **The interval of a configuration fits into 32 bits**, though not always into an `int`. -/
theorem TraitOptions.interval_lt {document node : Yaml.Node} {options : TraitOptions}
    (h : ofNode? document node = some options) {n : Nat} (hn : options.scanInterval = some n) :
    n < 4294967296 := by
  simp only [ofNode?, Option.bind_eq_bind, Option.bind_eq_some_iff] at h
  obtain ⟨fields, -, idle, -, interval, hinterval, hoptions⟩ := h
  cases hoptions
  refine Yaml.Node.of_fieldOr (p := fun interval => ∀ n, interval = some n → n < 4294967296) ?_ ?_
    hinterval n hn
  · intro n hnone
    cases hnone
  · rintro node interval hread n rfl
    exact Yaml.Node.word?_lt (Yaml.Node.of_optional? hread)

/-- **The scan interval of a configuration** is positive and has 32 bits, without a sign. -/
theorem Config.interval_bounds {yaml : String} {config : Config}
    (h : Config.parse yaml = .ok config) {n : Nat} (hn : config.hook.scanInterval = some n) :
    1 ≤ n ∧ n ≤ 4294967295 := by
  unfold Config.parse at h
  split at h
  · rename_i read hread
    unfold check at h
    split at h
    · cases h
    · split at h
      · cases h
      · rename_i hzero
        cases h
        obtain ⟨document, -, hdocument⟩ := Option.bind_eq_some_iff.mp hread
        simp only [ofDocument?, Option.bind_eq_bind, Option.bind_eq_some_iff] at hdocument
        obtain ⟨fields, -, version, -, namespaceName, -, render, -, hook, hhook, actor, -,
          capabilities, -, hconfig⟩ := hdocument
        cases hconfig
        have hlt : n < 4294967296 := by
          refine Yaml.Node.of_fieldOr
            (p := fun hook => ∀ n, hook.scanInterval = some n → n < 4294967296) ?_ ?_ hhook n hn
          · intro n hnone
            cases hnone
          · intro node options hoptions n hn
            exact TraitOptions.interval_lt hoptions hn
        have hpos : n ≠ 0 := by
          rintro rfl
          exact hzero hn
        omega
  · cases h

end BehaviorTraits
