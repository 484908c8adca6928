import MarkupTemplates.Dependency.Graph

/-!
# Walks along the dependencies

`Graph.walk` follows dependencies depth first.  It knows the ids on the way from where it began, so
that it notices a circle, and the ids it has finished, so that it visits none twice; the finished
ids come out in an order in which each comes after those it depends on.  The walk ends since each
step down adds a new vertex to the way (`Graph.offWay_lt`).

`Graph.checkFrom` asks whether an id can be compiled at all; `Graph.compileOrder` orders all ids.
-/

namespace MarkupTemplates

namespace Graph

/-- The number of vertices that are not on a way. -/
def offWay (g : Graph) (way : List String) : Nat :=
  (g.vertices.filter fun v => !way.contains v.id).length

theorem exists_vertex_of_isDefined {g : Graph} {id : String} (h : g.isDefined id = true) :
    ∃ v ∈ g.vertices, v.id = id := by
  simp only [isDefined, vertex?, Option.any_eq_true] at h
  obtain ⟨v, hv, -⟩ := h
  exact ⟨v, List.mem_of_find?_eq_some hv, by simpa using List.find?_some hv⟩

theorem length_filter_lt {α : Type} {p q : α → Bool} (hpq : ∀ a, p a = true → q a = true)
    {l : List α} (h : ∃ a ∈ l, q a = true ∧ p a = false) :
    (l.filter p).length < (l.filter q).length := by
  have hsub : ∀ l : List α, (l.filter p).length ≤ (l.filter q).length := by
    intro l
    induction l with
    | nil => simp
    | cons b l ih =>
      by_cases hp : p b
      · simp [hp, hpq b hp, ih]
      · by_cases hq : q b <;> simp [hp, hq] <;> omega
  induction l with
  | nil => simp at h
  | cons b l ih =>
    obtain ⟨a, ha, hqa, hpa⟩ := h
    rcases List.mem_cons.mp ha with rfl | ha
    · have := hsub l
      simp [hqa, hpa]; omega
    · have := ih ⟨a, ha, hqa, hpa⟩
      by_cases hp : p b
      · simp [hp, hpq b hp, this]
      · by_cases hq : q b <;> simp [hp, hq] <;> omega

/-- One id more on the way leaves one less off it. -/
theorem offWay_lt {g : Graph} {id : String} {way : List String} (hd : g.isDefined id = true)
    (hw : id ∉ way) : g.offWay (id :: way) < g.offWay way := by
  obtain ⟨v, hv, rfl⟩ := exists_vertex_of_isDefined hd
  refine length_filter_lt ?_ ⟨v, hv, by simpa using hw, by simp⟩
  intro a ha
  simp only [List.contains_cons, Bool.not_eq_true', Bool.or_eq_false_iff] at ha
  rw [ha.2]; rfl

/-- The circle that closes with a dependency on `id`, given the way back from the dependent id. -/
def circle (id : String) (way : List String) : List String :=
  id :: (way.takeWhile (· != id)).reverse ++ [id]

/-- Follows the dependencies `targets` of `current`, which was reached by the way `above`, given the
ids that are finished; answers the ids that are finished then.  A dependency without a definition is
an error if the walk is strict, and passed over if not. -/
def walk (g : Graph) (strict : Bool) (current : String) (above finished : List String) :
    List String → Except ResolutionError (List String)
  | [] => .ok finished
  | t :: ts =>
    if _hd : g.isDefined t = true then
      if _hw : t ∈ current :: above then .error (.cycle (circle t (current :: above)))
      else if finished.contains t then walk g strict current above finished ts
      else
        match walk g strict t (current :: above) finished (g.dependencies t) with
        | .error e => .error e
        | .ok finished => walk g strict current above (finished ++ [t]) ts
    else if strict then .error (.missingTarget current t)
    else walk g strict current above finished ts
termination_by targets => (g.offWay (current :: above), targets.length)
decreasing_by
  · exact Prod.Lex.right _ (by simp)
  · exact Prod.Lex.left _ _ (offWay_lt _hd _hw)
  · exact Prod.Lex.right _ (by simp)
  · exact Prod.Lex.right _ (by simp)

/-- Fails unless an id and all it depends on, directly or not, have definitions and none of them
depends on itself. -/
def checkFrom (g : Graph) (id : String) : Except ResolutionError Unit :=
  if g.isDefined id then (g.walk true id [] [] (g.dependencies id)).map fun _ => ()
  else .error (if g.isKnown id then .missingTarget id id else .notFound id)

/-- The finished ids once an id and all it depends on are among them. -/
def finishWith (g : Graph) (finished : List String) (id : String) :
    Except ResolutionError (List String) :=
  if finished.contains id then .ok finished
  else (g.walk false id [] finished (g.dependencies id)).map (· ++ [id])

/-- The ids in an order in which each comes after the defined ids it depends on. -/
def compileOrder (g : Graph) : Except ResolutionError (List String) :=
  (g.vertices.map (·.id)).foldlM g.finishWith []

end Graph

end MarkupTemplates
