import Conformance.Proofs.Descent
import Conformance.Proofs.Safety

/-!
# Engines with fewer validators

An engine is built step by step: `new` starts with no validator, `standard` with the standard
validator of every type, and `register` adds the standard validator of one type and says whether
the type had one already.  The types an engine lists are those with a validator, in registry
order, each once.

Main statement: `Engine.partialRegistry_conservative`.  After a start and any registrations,
the engine lists the sorted set of the types registered since the start, and a registration
replaces exactly when its type is listed.  A check under such an engine answers as the standard
engine does, or stops with a missing validator for a type it does not list: the two checks go
alike step by step until the first validator the engine lacks, and that error passes up
unchanged through every level (`Engine.checkIn_follows` with the missing validators as the
allowed stops).
-/

namespace Conformance

namespace TypeName

theorem mem_all (t : TypeName) : t ∈ all := by
  cases t <;> decide

theorem all_pairwise_rank : all.Pairwise (fun a b => a.rank < b.rank) := by
  decide

end TypeName

namespace Engine

variable (e : Engine)

theorem mem_registeredTypes {t : TypeName} : t ∈ e.registeredTypes ↔ t ∈ e.types := by
  simp [registeredTypes, has, TypeName.mem_all]

theorem registeredTypes_pairwise : e.registeredTypes.Pairwise (fun a b => a.rank < b.rank) :=
  TypeName.all_pairwise_rank.filter _

theorem has_iff_mem {t : TypeName} : e.has t = true ↔ t ∈ e.types := by
  simp [has]

@[simp]
theorem register_replaced (t : TypeName) : (e.register t).2 = e.has t := by
  unfold register
  split <;> simp_all

@[simp]
theorem custom_register (t : TypeName) : (e.register t).1.custom = e.custom := by
  unfold register
  split <;> rfl

theorem mem_types_register {t u : TypeName} : u ∈ (e.register t).1.types ↔ u ∈ e.types ∨ u = t := by
  unfold register
  split
  · -- the type had a validator already: nothing changes
    rename_i known
    have member := (e.has_iff_mem).mp known
    constructor
    · exact .inl
    · rintro (member' | rfl)
      · exact member'
      · exact member
  · simp

theorem mem_types_foldl_register (u : TypeName) (regs : List TypeName) :
    ∀ base : Engine,
      u ∈ (regs.foldl (fun e t => (e.register t).1) base).types ↔ u ∈ base.types ∨ u ∈ regs := by
  induction regs with
  | nil => simp
  | cons t rest ih =>
      intro base
      rw [List.foldl_cons, ih, mem_types_register, List.mem_cons]
      constructor
      · rintro ((member | rfl) | later)
        · exact .inl member
        · exact .inr (.inl rfl)
        · exact .inr (.inr later)
      · rintro (member | rfl | later)
        · exact .inl (.inl member)
        · exact .inl (.inr rfl)
        · exact .inr later

theorem custom_foldl_register (regs : List TypeName) :
    ∀ base : Engine, (regs.foldl (fun e t => (e.register t).1) base).custom = base.custom := by
  induction regs with
  | nil => intro base; rfl
  | cons t rest ih =>
      intro base
      rw [List.foldl_cons, ih, custom_register]

theorem checkIn_standard_or_missing (v : Value) (ts : Typeset) (ctx : Context) :
    e.checkIn v ts ctx = (standard e.custom).checkIn v ts ctx ∨
      ∃ t, t ∉ e.registeredTypes ∧ e.checkIn v ts ctx = .error (.missingValidator t) := by
  have engines : ∀ (v : Value) (ctx : Context), True →
      Check.EnginesFollow (fun err => ∃ t, e.has t = false ∧ err = .missingValidator t) e
        (standard e.custom) v ctx := by
    intro v ctx _
    refine ⟨fun t => ?_, fun _ _ _ => rfl⟩
    cases known : e.has t with
    | true => exact .inl (has_standard e.custom t).symm
    | false => exact .inr ⟨rfl, t, known, rfl⟩
  rcases checkIn_follows (fun _ _ _ _ _ _ => trivial) engines trivial ts with
    same | ⟨err, ⟨t, lacks, rfl⟩, raised⟩
  · exact .inl same
  · refine .inr ⟨t, fun listed => ?_, raised⟩
    rw [mem_registeredTypes, ← has_iff_mem, lacks] at listed
    cases listed

/-- Partial registries are conservative.  Start from no validator or from the standard ones and
register standard validators of any types: the engine lists the types registered since the
start, sorted in registry order and each once; a registration replaces a validator exactly when
its type is listed; and every check answers as under the standard engine, or stops with a
missing validator for a type the engine does not list. -/
theorem partialRegistry_conservative (custom : CustomChecks) (fromStandard : Bool)
    (regs : List TypeName) :
    let e := regs.foldl (fun e t => (e.register t).1)
      (if fromStandard then standard custom else empty custom)
    (∀ v ts ctx, e.checkIn v ts ctx = (standard custom).checkIn v ts ctx ∨
        ∃ t, t ∉ e.registeredTypes ∧ e.checkIn v ts ctx = .error (.missingValidator t)) ∧
      (∀ t, t ∈ e.registeredTypes ↔ fromStandard = true ∨ t ∈ regs) ∧
      e.registeredTypes.Pairwise (fun a b => a.rank < b.rank) ∧
      ∀ t, (e.register t).2 = true ↔ t ∈ e.registeredTypes := by
  intro e
  have started : ∀ t, t ∈ (if fromStandard then standard custom else empty custom).types ↔
      fromStandard = true := by
    intro t
    cases fromStandard <;> simp [standard, empty, TypeName.mem_all]
  refine ⟨fun v ts ctx => ?_, fun t => ?_, e.registeredTypes_pairwise, fun t => ?_⟩
  · have custom' : e.custom = custom := by
      rw [custom_foldl_register]
      cases fromStandard <;> rfl
    rw [← custom']
    exact e.checkIn_standard_or_missing v ts ctx
  · rw [mem_registeredTypes, mem_types_foldl_register, started]
  · rw [register_replaced, has_iff_mem, mem_registeredTypes]

end Engine

end Conformance
