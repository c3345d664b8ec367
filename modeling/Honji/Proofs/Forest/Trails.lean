import Honji.Proofs.Forest.Termination

/-!
The ways that a walk has gone. A walk goes no way twice; but since the children of a node have
symbols of their own, no two of its ways are the same, and it leaves nothing out.
-/

namespace Honji
namespace Walk
variable {α : Type} {visitor : NodeId → ForestM α Unit} {ways wider : Path → Prop}

def Orderly (visitor : NodeId → ForestM α Unit) : Prop :=
  ∀ (node : NodeId) (forest : Forest α), forest.Owned →
    (Steps.run (visitor node) forest).2.Owned

theorem orderly_idle : Orderly (Visitor.idle (α := α)) :=
  fun _ _ owned => owned

theorem orderly_relabel (change : Path → α → α) : Orderly (Visitor.relabel change) := by
  intro node forest owned
  rw [Visitor.relabel, Steps.run_bind_of_ok (Steps.run_get forest)]
  cases forest.cell? node with
  | none => exact owned
  | some cell => exact (Forest.evolves_setToken owned node _).owned

/-! ### Steps on a trail -/

/--
Steps on a trail do the same as steps off it, if none of some ways was gone before. They go no other
ways than these, and leave nodes owned.
-/
def Traces (ways : Path → Prop) (traced : TrailM α Unit) (steps : WalkM α Unit) : Prop :=
  ∀ trail : Trail α, trail.walk.forest.Owned → (∀ way ∈ trail.gone, ¬ ways way) →
    ∃ gone, Steps.run traced trail =
        ((Steps.run steps trail.walk).1, ⟨(Steps.run steps trail.walk).2, gone⟩) ∧
      (Steps.run steps trail.walk).2.forest.Owned ∧ ∀ way ∈ gone, way ∈ trail.gone ∨ ways way

namespace Traces
variable {traced tracedRest : TrailM α Unit} {steps rest : WalkM α Unit}

theorem pure : Traces ways (pure () : TrailM α Unit) (pure ()) :=
  fun trail owned _ => ⟨trail.gone, rfl, owned, fun _ => .inl⟩

theorem widen (traces : Traces ways traced steps) (within : ∀ way, ways way → wider way) :
    Traces wider traced steps := by
  intro trail owned untrodden
  obtain ⟨gone, ran, ownedAfter, few⟩ :=
    traces trail owned fun way member here => untrodden way member (within way here)
  exact ⟨gone, ran, ownedAfter, fun way member => (few way member).imp_right (within way)⟩

theorem bind {other : Path → Prop} (first : Traces ways traced steps)
    (second : Traces other tracedRest rest) (apart : ∀ way, ways way → ¬ other way) :
    Traces (fun way => ways way ∨ other way) (traced >>= fun _ => tracedRest)
      (steps >>= fun _ => rest) := by
  intro trail owned untrodden
  obtain ⟨gone, ran, ownedBetween, few⟩ :=
    first trail owned fun way member here => untrodden way member (.inl here)
  rw [Steps.run_bind, Steps.run_bind, ran]
  generalize Steps.run steps trail.walk = ended at ownedBetween ⊢
  rcases ended with ⟨failure | ⟨⟩, between⟩
  · exact ⟨gone, rfl, ownedBetween, fun way member => (few way member).imp_right .inl⟩
  · obtain ⟨goneToo, ranToo, ownedAfter, fewToo⟩ := second ⟨between, gone⟩ ownedBetween
      fun way member here => (few way member).elim
        (fun old => untrodden way old (.inr here)) fun new => apart way new here
    refine ⟨goneToo, ranToo, ownedAfter, fun way member => ?_⟩
    rcases fewToo way member with old | new
    · exact (few way old).imp_right .inl
    · exact .inr (.inr new)

theorem forM {ι : Type} {tracedStep : ι → TrailM α Unit} {step : ι → WalkM α Unit}
    {ways : ι → Path → Prop} {items : List ι}
    (each : ∀ item ∈ items, Traces (ways item) (tracedStep item) (step item))
    (apart : items.Pairwise fun one other => ∀ way, ways one way → ¬ ways other way) :
    Traces (fun way => ∃ item ∈ items, ways item way) (items.forM tracedStep)
      (items.forM step) := by
  induction items with
  | nil => exact pure
  | cons item items ih =>
      obtain ⟨here, later⟩ := List.forall_mem_cons.1 each
      obtain ⟨first, others⟩ := List.pairwise_cons.1 apart
      refine (here.bind (ih later others) fun way ours => ?_).widen ?_
      · rintro ⟨other, member, theirs⟩
        exact first other member way ours theirs
      · rintro way (ours | ⟨other, member, theirs⟩)
        · exact ⟨item, List.mem_cons_self, ours⟩
        · exact ⟨other, List.mem_cons_of_mem _ member, theirs⟩

theorem once {way : Path} (traces : Traces ways traced steps) (apart : ¬ ways way) :
    Traces (fun other => other = way ∨ ways other) (once way traced) steps := by
  intro trail owned untrodden
  have fresh : way ∉ trail.gone := fun member => untrodden way member (.inl rfl)
  obtain ⟨gone, ran, ownedAfter, few⟩ := traces ⟨trail.walk, way :: trail.gone⟩ owned
    (List.forall_mem_cons.2 ⟨apart, fun other member here => untrodden other member (.inr here)⟩)
  refine ⟨gone, ?_, ownedAfter, fun other member => ?_⟩
  · rw [Walk.once, Steps.run_bind_of_ok (Steps.run_get trail), if_neg fresh]
    exact ran
  · rcases few other member with old | new
    · rcases List.mem_cons.1 old with rfl | old
      · exact .inr (.inl rfl)
      · exact .inl old
    · exact .inr (.inr new)

end Traces

/-! ### Whole walks -/

def throughOnce (visitor : NodeId → ForestM α Unit) (order : VisitOrder) (depth : Nat)
    (way : Path) (node : NodeId) : TrailM α Unit := do
  (((← get).walk.forest.cell? node).elim [] (·.children)).forM fun child =>
    descendOnce visitor order depth true (way ++ [child.1]) child.2

theorem onTrail_visitIf (visitor : NodeId → ForestM α Unit) (chosen : Bool) (node : NodeId) :
    onTrail (visitIf visitor chosen node) =
      if chosen then onTrail (visit visitor node) else pure () := by
  cases chosen <;> rfl

theorem descendOnce_zero (visitor : NodeId → ForestM α Unit) (order : VisitOrder)
    (included : Bool) (way : Path) (node : NodeId) :
    descendOnce visitor order 0 included way node =
      once way (onTrail (visitIf visitor included node)) := by
  rw [descendOnce, onTrail_visitIf]

theorem descendOnce_succ (visitor : NodeId → ForestM α Unit) (order : VisitOrder) (depth : Nat)
    (included : Bool) (way : Path) (node : NodeId) :
    descendOnce visitor order (depth + 1) included way node =
      once way (do onTrail (visitIf visitor (included && order = .pre) node)
                   (do throughOnce visitor order depth way node
                       onTrail (visitIf visitor (included && order = .post) node))) := by
  rw [descendOnce, throughOnce, onTrail_visitIf, onTrail_visitIf]
  cases included && decide (order = .pre) <;> rfl

theorem eq_of_begins {way longer : Path} {one other : Symbol} (first : way ++ [one] <+: longer)
    (second : way ++ [other] <+: longer) : one = other := by
  have same := (List.prefix_of_prefix_length_le first second (by simp)).eq_of_length (by simp)
  simpa using same

theorem traces_through {order : VisitOrder} {depth : Nat}
    (each : ∀ way child, Traces (way <+: ·) (descendOnce visitor order depth true way child)
      (descend visitor order depth true child)) (way : Path) (node : NodeId) :
    Traces (fun longer => ∃ symbol, way ++ [symbol] <+: longer)
      (throughOnce visitor order depth way node) (through visitor order depth node) := by
  intro trail owned untrodden
  have keys : (((trail.walk.forest.cell? node).elim [] (·.children)).map Prod.fst).Nodup := by
    cases there : trail.walk.forest.cell? node with
    | none => exact List.nodup_nil
    | some cell => exact owned.distinct node cell there
  have apart := (List.pairwise_map.1 keys).imp fun different longer
      (here : way ++ [_] <+: longer) (there : way ++ [_] <+: longer) =>
    different (eq_of_begins here there)
  have traces := Traces.forM (fun child _ => each (way ++ [child.1]) child.2) apart
  exact (traces.widen fun longer ⟨child, _, here⟩ => ⟨child.1, here⟩) trail owned untrodden

section
variable (orderly : Orderly visitor)
include orderly

theorem traces_visitIf (chosen : Bool) (node : NodeId) :
    Traces (fun _ => False) (onTrail (visitIf visitor chosen node))
      (visitIf visitor chosen node) := by
  intro trail owned _
  refine ⟨trail.gone, rfl, ?_, fun _ => .inl⟩
  cases chosen
  · exact owned
  · exact orderly node trail.walk.forest owned

theorem traces_descend (order : VisitOrder) (depth : Nat) (included : Bool) (way : Path)
    (node : NodeId) : Traces (way <+: ·) (descendOnce visitor order depth included way node)
      (descend visitor order depth included node) := by
  induction depth generalizing included way node with
  | zero =>
      rw [descendOnce_zero]
      refine ((traces_visitIf orderly included node).once id).widen ?_
      rintro _ (rfl | ⟨⟨⟩⟩)
      exact List.prefix_rfl
  | succ depth ih =>
      rw [descendOnce_succ, descend_succ]
      have inner := (traces_visitIf orderly (included && order = .pre) node).bind
        ((traces_through (ih true) way node).bind
          (traces_visitIf orderly (included && order = .post) node) fun _ _ => id)
        fun _ none _ => none
      refine (inner.once ?_).widen ?_
      · rintro (⟨⟨⟩⟩ | ⟨symbol, longer⟩ | ⟨⟨⟩⟩)
        exact absurd longer.length_le (by simp)
      · rintro longer (rfl | ⟨⟨⟩⟩ | ⟨symbol, ahead⟩ | ⟨⟨⟩⟩)
        · exact List.prefix_rfl
        · exact (List.prefix_append way [symbol]).trans ahead

/-- A walk never comes to a way that it has gone before. -/
theorem run_afresh (order : VisitOrder) (depth : Nat) (included : Bool) (node : NodeId)
    {walk : Walk α} (owned : walk.forest.Owned) :
    Steps.run (afresh (descendOnce visitor order depth included [] node)) walk =
      Steps.run (descend visitor order depth included node) walk := by
  obtain ⟨gone, ran, -⟩ := traces_descend orderly order depth included [] node ⟨walk, []⟩ owned
    (by simp)
  exact congrArg (fun ended => (ended.1, ended.2.walk)) ran

theorem run_run {order : Datum} {parsed : VisitOrder} (known : VisitOrder.parse order = .ok parsed)
    (depth : Option Int) (included : Bool) (node : NodeId) {walk : Walk α}
    (owned : walk.forest.Owned) :
    Steps.run (run visitor order depth included node) walk = Steps.run
      (descend visitor parsed (depth.elim walk.forest.cells.size Int.toNat) included node) walk := by
  rw [run, known]
  exact run_afresh orderly parsed _ included node owned

end
end Walk
end Honji
