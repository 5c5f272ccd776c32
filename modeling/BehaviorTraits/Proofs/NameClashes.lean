import BehaviorTraits.Actor
import BehaviorTraits.Proofs.NumberedNames

/-!
# Names that clash

The fields of an Info class have different names, for a new one is made only under a name that no
field has.  Nothing looks at the other names around them: those of the class and of its method, and
in the actor document those of the blocks that every actor has.  Here it is said when they stay
apart.

* `members_apart_iff`: the members of an Info class have different names, none of them that of the
  class, if and only if the tree asks for no field under the name of the method or of the class.
* `trait_block_found_iff`: the block of the trait is found under its key if and only if the class
  has none of the three names that head the other blocks.
-/

namespace BehaviorTraits

open Text FieldDecl

namespace ClassDecl

/-- The names of the fields and methods of a class. -/
def memberNames (c : ClassDecl) : List String :=
  c.fields.map (·.name) ++ c.methods.map (·.name)

/-- No two members have the same name, and none has that of the class. -/
structure MembersApart (c : ClassDecl) : Prop where
  nodup : c.memberNames.Nodup
  own : c.name ∉ c.memberNames

end ClassDecl

namespace Hook

/-! ## Members of an Info class -/

variable {lookup : Lookup} {options : HookOptions} {root : Node} {name : String} {t : Trait}

theorem name_traitOf (lookup : Lookup) (options : HookOptions) (root : Node) (name : String) :
    (traitOf lookup options root name).name = name := rfl

/-- An Info class is called after its trait, and has one method. -/
theorem synthesized_info (ht : synthesize lookup options root name = .ok t) :
    t.info.name = t.name ++ "Info" ∧ t.info.methods = [createMethod t.name] := by
  have hparts := (synthesize_eq_ok ht).2
  exact ⟨congrArg (·.info.name) hparts, congrArg (·.info.methods) hparts⟩

/-- **When there is a field of a name**, if it is no number and not that of a fixed field. -/
theorem mem_synthesized_fields (ht : synthesize lookup options root name = .ok t) {F : String}
    (hnumber : ∀ n, F ≠ numbered n) (hgate : F ≠ "RequiresCondition") (hscan : F ≠ "ScanInterval") :
    F ∈ t.info.fields.map (·.name) ↔ ∃ r, AsksField lookup root r ∧ nameFor 0 r.raw = F := by
  have hfixed : F ∉ (initialFields options).map (·.name) := by
    intro hmem
    exact (names_initialFields hmem).elim hgate hscan
  rw [synthesized_demands ht, mem_names_ensureAll_iff hnumber, or_iff_right hfixed]
  constructor
  · rintro ⟨d, hd, hname⟩
    obtain ⟨r, hr, rfl⟩ := List.mem_map.mp hd
    exact ⟨r, (mem_treeRequests lookup root r).mp hr, hname⟩
  · rintro ⟨r, hr, hname⟩
    exact ⟨r.demand, List.mem_map_of_mem ((mem_treeRequests lookup root r).mpr hr), hname⟩

/-- The name of an Info class ends like `Info`, so it is none that ends otherwise. -/
theorem last_infoName (name : String) : (name ++ "Info").toList.getLast? = some 'o' := by
  rw [String.toList_append]
  exact List.getLast?_append_of_ne_nil _ (by decide)

/-- No Info class has a name that ends in another letter. -/
theorem infoName_ne {other : String} (hother : other.toList.getLast? ≠ some 'o') (name : String) :
    name ++ "Info" ≠ other := by
  rintro rfl
  exact hother (last_infoName name)

/-- **When the members of an Info class have different names.**  The fields always do.  The method
and the class have names of their own too, if and only if no condition or action of the tree asks
for a field under one of the two. -/
theorem members_apart_iff (ht : synthesize lookup options root name = .ok t) :
    (t.info.fields.map (·.name)).Nodup ∧
    (t.info.MembersApart ↔
      ∀ r, AsksField lookup root r →
        nameFor 0 r.raw ≠ "Create" ∧ nameFor 0 r.raw ≠ t.info.name) := by
  obtain ⟨hname, hmethods⟩ := synthesized_info ht
  have hnodup := nodup_synthesized_fields ht
  have hmembers : t.info.memberNames = t.info.fields.map (·.name) ++ ["Create"] := by
    rw [ClassDecl.memberNames, hmethods]
    rfl
  have hcreate := mem_synthesized_fields ht (ne_numbered (by decide)) (by decide)
    (by decide : "Create" ≠ "ScanInterval")
  have hown : t.info.name ∈ t.info.fields.map (·.name) ↔
      ∃ r, AsksField lookup root r ∧ nameFor 0 r.raw = t.info.name := by
    rw [hname]
    apply mem_synthesized_fields ht
    · apply ne_numbered
      rw [last_infoName]
      decide
    · exact infoName_ne (by decide) t.name
    · exact infoName_ne (by decide) t.name
  have hother : t.info.name ≠ "Create" := hname ▸ infoName_ne (by decide) t.name
  refine ⟨hnodup, ?_⟩
  constructor
  · rintro ⟨hapart, hnot⟩ r hr
    rw [hmembers] at hapart hnot
    refine ⟨?_, ?_⟩
    · intro hclash
      exact List.disjoint_of_nodup_append hapart (hcreate.mpr ⟨r, hr, hclash⟩) List.mem_cons_self
    · intro hclash
      exact hnot (List.mem_append_left _ (hown.mpr ⟨r, hr, hclash⟩))
  · intro hfree
    refine ⟨?_, ?_⟩
    · rw [hmembers]
      apply hnodup.append (List.nodup_singleton _)
      rw [List.disjoint_singleton]
      intro hmem
      obtain ⟨r, hr, hclash⟩ := hcreate.mp hmem
      exact (hfree r hr).1 hclash
    · rw [hmembers, List.mem_append, List.mem_singleton]
      rintro (hmem | hsame)
      · obtain ⟨r, hr, hclash⟩ := hown.mp hmem
        exact (hfree r hr).2 hclash
      · exact hother hsame

/-- The members of the sentry have different names. -/
theorem members_apart_iff_sentry :
    ∃ t, synthesize (fun _ => none) sentryOptions sentry "sentry" = .ok t ∧
      t.info.memberNames = ["RequiresCondition", "ScanInterval", "Alarm", "Limit", "Create"] ∧
      t.info.MembersApart := by
  have hfree : ∀ r ∈ treeRequests (fun _ => none) sentry,
      nameFor 0 r.raw ≠ "Create" ∧ nameFor 0 r.raw ≠ "Sentry" ++ "Info" := by
    decide +kernel
  have hiff := (members_apart_iff synthesize_sentry).2
  rw [(synthesized_info synthesize_sentry).1, name_traitOf] at hiff
  refine ⟨_, synthesize_sentry, ?_, hiff.mpr ?_⟩
  · rw [ClassDecl.memberNames, synthesized_demands synthesize_sentry,
      (synthesized_info synthesize_sentry).2]
    decide +kernel
  · intro r hr
    exact hfree r ((mem_treeRequests _ _ r).mpr hr)

/-- A tree with flags of the names that the method and the class have. -/
def namesake : Node :=
  { id := "root", condition := some "Create"
    children := [{ id := "hold", condition := some "GuardInfo", action := some "Attack" }] }

/-- **Flags with the names of the method and of the class.**  Both become fields. -/
theorem members_of_namesake :
    ∃ t, synthesize (fun _ => none) {} namesake "Guard" = .ok t ∧
      t.info.name = "GuardInfo" ∧
      t.info.fields.map (·.name) = ["RequiresCondition", "Create", "GuardInfo"] ∧
      t.info.methods.map (·.name) = ["Create"] ∧
      ¬ t.info.memberNames.Nodup ∧ t.info.name ∈ t.info.memberNames := by
  have ht : synthesize (fun _ => none) {} namesake "Guard" =
      .ok (traitOf (fun _ => none) {} namesake "Guard") := synthesize_of_className rfl
  have hfields : (traitOf (fun _ => none) {} namesake "Guard").info.fields.map (·.name) =
      ["RequiresCondition", "Create", "GuardInfo"] := by
    rw [synthesized_demands ht]
    decide +kernel
  have hmembers : (traitOf (fun _ => none) {} namesake "Guard").info.memberNames =
      ["RequiresCondition", "Create", "GuardInfo", "Create"] := by
    rw [ClassDecl.memberNames, hfields]
    rfl
  have hown : "GuardInfo" ∈ ["RequiresCondition", "Create", "GuardInfo", "Create"] := by decide
  refine ⟨_, ht, rfl, hfields, rfl, ?_⟩
  rw [hmembers]
  exact ⟨by decide, hown⟩

/-! ## Blocks of an actor document -/

/-- The keys of the blocks that every actor has. -/
def fixedKeys : List String := ["Inherits", "Tooltip", "RenderSprites"]

/-- The block of the trait stands behind these, and none of them has a switch of a trait in it. -/
theorem exists_fixed_blocks (t : Trait) (entity : String) (defaults : ActorDefaults) :
    ∃ fixed : List MiniYaml,
      (actorDocument t entity defaults).children = fixed ++ [traitBlock t] ∧
      fixed.map (·.key) = fixedKeys ∧
      ∀ block ∈ fixed, "RequiresCondition" ∉ block.children.map (·.key) := by
  have hinner : (actorDocument t entity defaults).children.dropLast.map
      (fun block => block.children.map (·.key)) = [[], ["Name", "GenericName"], ["Image"]] := rfl
  have hnone : ∀ keys ∈ [[], ["Name", "GenericName"], ["Image"]], "RequiresCondition" ∉ keys := by
    decide
  refine ⟨(actorDocument t entity defaults).children.dropLast, rfl, rfl, ?_⟩
  intro block hblock
  apply hnone
  rw [← hinner]
  exact List.mem_map_of_mem hblock

/-- The switch is among the fields that the document shows. -/
theorem gate_exposed (ht : synthesize lookup options root name = .ok t) :
    "RequiresCondition" ∈ t.exposedFields.map (·.name) := by
  have hgate := (lowered_fields_proper lookup options root).1
  rw [← (synthesized_parts ht).2] at hgate
  exact List.mem_map.mpr ⟨gateField, List.mem_filter.mpr ⟨hgate, rfl⟩, rfl⟩

/-- The keys in the block of a trait are the names of its fields. -/
theorem keys_traitBlock (t : Trait) :
    (traitBlock t).children.map (·.key) = t.exposedFields.map (·.name) := by
  rw [traitBlock, List.map_map]
  apply List.map_congr_left
  intro f _
  rw [Function.comp_apply, fieldEntry]
  split <;> rfl

/-- **When the block of a trait is found under its key.**  The keys of an actor are three that every
actor has, and the name of the class.  They are different if and only if this name is none of the
three, and just then the block that is found under it is that of the trait.  Otherwise it is one in
which the fields of the trait are not listed. -/
theorem trait_block_found_iff (ht : synthesize lookup options root name = .ok t) (entity : String)
    (defaults : ActorDefaults) :
    let document := actorDocument t entity defaults
    document.children.map (·.key) = fixedKeys ++ [t.name] ∧
    ((document.children.map (·.key)).Nodup ↔ t.name ∉ fixedKeys) ∧
    (document.child? t.name = some (traitBlock t) ↔ t.name ∉ fixedKeys) ∧
    ∃ block, document.child? t.name = some block ∧
      (block.children.map (·.key) = t.exposedFields.map (·.name) ↔ t.name ∉ fixedKeys) := by
  intro document
  obtain ⟨fixed, hchildren, hfixed, hgate⟩ := exists_fixed_blocks t entity defaults
  have hkeys : document.children.map (·.key) = fixedKeys ++ [t.name] := by
    rw [hchildren, List.map_append, hfixed]
    rfl
  have hfound : document.child? t.name =
      (fixed.find? (·.key == t.name)).or (some (traitBlock t)) := by
    have hlast : [traitBlock t].find? (·.key == t.name) = some (traitBlock t) :=
      List.find?_cons_of_pos (beq_self_eq_true t.name)
    rw [MiniYaml.child?, hchildren, List.find?_append, hlast]
  have hdistinct : (fixedKeys ++ [t.name]).Nodup ↔ t.name ∉ fixedKeys := by
    rw [List.nodup_append_comm, List.singleton_append, List.nodup_cons]
    exact and_iff_left (by decide)
  refine ⟨hkeys, hkeys ▸ hdistinct, ?_⟩
  by_cases hname : t.name ∈ fixedKeys
  · -- one of the fixed blocks is found, and the switch tells it from that of the trait
    rw [← hfixed] at hname
    obtain ⟨other, hother, hkey⟩ := List.mem_map.mp hname
    obtain ⟨block, hblock⟩ : ∃ block, fixed.find? (·.key == t.name) = some block :=
      Option.isSome_iff_exists.mp (List.find?_isSome.mpr ⟨other, hother, beq_iff_eq.mpr hkey⟩)
    have hunlisted : block.children.map (·.key) ≠ t.exposedFields.map (·.name) := by
      intro hlisted
      apply hgate block (List.mem_of_find?_eq_some hblock)
      rw [hlisted]
      exact gate_exposed ht
    rw [hfound, hblock, Option.some_or, ← hfixed]
    refine ⟨iff_of_false ?_ (not_not.mpr hname), block, rfl,
      iff_of_false hunlisted (not_not.mpr hname)⟩
    intro hsame
    apply hunlisted
    rw [Option.some.inj hsame, keys_traitBlock]
  · have hnone : fixed.find? (·.key == t.name) = none := by
      rw [List.find?_eq_none]
      intro block hblock hkey
      apply hname
      rw [← hfixed, ← beq_iff_eq.mp hkey]
      exact List.mem_map_of_mem hblock
    rw [hfound, hnone, Option.none_or]
    exact ⟨iff_of_true rfl hname, traitBlock t, rfl, iff_of_true (keys_traitBlock t) hname⟩

/-- The block of the sentry is found, with its fields in it. -/
theorem trait_block_found_iff_sentry :
    ∃ t, synthesize (fun _ => none) sentryOptions sentry "sentry" = .ok t ∧
      let document := actorDocument t "medic" {}
      document.children.map (·.key) = ["Inherits", "Tooltip", "RenderSprites", "Sentry"] ∧
      (document.children.map (·.key)).Nodup ∧
      document.child? "Sentry" = some (traitBlock t) ∧
      (traitBlock t).children.map (·.key) =
        ["RequiresCondition", "ScanInterval", "Alarm", "Limit"] := by
  obtain ⟨hkeys, hdistinct, hfound, -⟩ := trait_block_found_iff synthesize_sentry "medic" {}
  have hname : "Sentry" ∉ fixedKeys := by decide
  rw [name_traitOf] at hkeys hdistinct hfound
  refine ⟨_, synthesize_sentry, hkeys, hdistinct.mpr hname, hfound.mpr hname, ?_⟩
  rw [keys_traitBlock, Trait.exposedFields, ClassDecl.exposedFields,
    synthesized_demands synthesize_sentry]
  decide +kernel

/-- A tree with nothing but an attack. -/
def assault : Node := { id := "root", action := some "Attack" }

/-- **A trait that is called like a block of every actor.**  Two blocks have its key, and the first,
which is found, does not list its field. -/
theorem tooltip_hides_trait :
    ∃ t, synthesize (fun _ => none) {} assault "tooltip" = .ok t ∧
      t.exposedFields.map (·.name) = ["RequiresCondition"] ∧
      let document := actorDocument t "medic" {}
      document.children.map (·.key) = ["Inherits", "Tooltip", "RenderSprites", "Tooltip"] ∧
      (document.child? t.name).map (fun block => block.children.map (·.key)) =
        some ["Name", "GenericName"] := by
  have ht : synthesize (fun _ => none) {} assault "tooltip" =
      .ok (traitOf (fun _ => none) {} assault "Tooltip") := synthesize_of_className rfl
  refine ⟨_, ht, ?_, rfl, rfl⟩
  rw [Trait.exposedFields, ClassDecl.exposedFields, synthesized_demands ht]
  decide +kernel

end Hook

end BehaviorTraits
