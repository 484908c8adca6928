import Mathlib
import MarkupTemplates.Proofs.Markup.Tidy
import MarkupTemplates.Proofs.Template.Loading
import MarkupTemplates.Store.Basic

/-!
# Well-formed templates

Whatever the source, the templates that are read from it are well formed (`Template.WellFormed`):
the id of each fits its mode, and its node lists are as the reader and the check of includes leave
them.  So nothing can be wrong with a batch of them but that an id is defined twice
(`readTemplates_wellFormed`).
-/

namespace MarkupTemplates

open Markup (Node LocatedElement Everywhere)

/-- The id of the template is not blank and fits its mode. -/
structure Template.Fitting (t : Template) : Prop where
  /-- The id is not blank. -/
  id_not_blank : Text.isBlankText t.id = false
  /-- A layer bears the id of the template it edits. -/
  layer : ∀ target, t.layered? = some target → t.id = target
  /-- A copy has another id than the template it copies, and no priority. -/
  copy : ∀ target, t.copied? = some target → t.id ≠ target ∧ t.priority = 0

/-- The template is as the rest of the library expects a template to be that was read. -/
structure Template.WellFormed (minify : Bool) (t : Template) : Prop extends t.Fitting where
  /-- At every depth, the keys of an element are distinct, an element that never has content has
  none, and a text is not empty and, if texts are trimmed, trimmed. -/
  read : ∀ nodes ∈ t.parts, Everywhere (Markup.Read minify) nodes
  /-- At every depth, an include names a template and has no children. -/
  sound : ∀ nodes ∈ t.parts, SoundIncludes nodes

namespace Declaration

/-! ### Checks -/

theorem yields_refuse (condition : Bool) (span : Text.Span) (fault : DeclarationFault) :
    Yields (refuse condition span fault) fun _ => condition = false := by
  intro _ h
  rw [refuse] at h
  split at h
  · cases h
  · simpa using ‹¬ condition = true›

/-- An extension is a layer of its target, or a copy with another id. -/
theorem yields_extension (id : Option String) (target : String) (declared : Option Mode) :
    Yields (extension id target declared) fun extended =>
      extended = (.inPlace, target) ∨
        extended.1 = .copy ∧ extended.2 ≠ target ∧ id = some extended.2 := by
  intro extended h
  unfold extension at h
  split at h
  · cases h
  · cases h; exact .inl rfl
  · cases h
  · rename_i own _ hown _
    cases h
    obtain ⟨hid, hne⟩ := Option.filter_eq_some_iff.mp hown
    exact .inr ⟨rfl, by simpa using hne, hid⟩

/-! ### Templates -/

/-- The template fits the element that declares it: a priority is written for a layer only. -/
def Fits (priority : Option Int) (t : Template) : Prop :=
  t.Fitting ∧ (t.isLayer = false → priority = none)

/-- A root that is accepted has an id that is not blank, and no priority. -/
theorem yields_root_fits (e : LocatedElement) {id : Option String}
    (hid : id.any Text.isBlankText = false) (mode : Option Mode) (priority : Option Int) :
    Yields (root e id mode priority) fun declared =>
      Fits priority ⟨declared.1, declared.2, .inline⟩ := by
  refine (Yields.any _).bind fun _ _ => (yields_refuse _ _ _).bind fun _ hpriority => ?_
  cases id with
  | none => exact .error _
  | some id =>
      refine (Yields.any _).bind fun nodes _ => .ok ⟨⟨hid, nofun, nofun⟩, fun _ => ?_⟩
      simpa using hpriority

/-- An extension that is accepted fits its mode: only a layer has a priority. -/
theorem yields_patch_fits (e : LocatedElement) {id : Option String}
    (hid : id.any Text.isBlankText = false) (mode : Option Mode) (priority : Option Int)
    {target : String} (htarget : Text.isBlankText target = false) :
    Yields (patch e id mode priority target) fun declared =>
      Fits priority ⟨declared.1, declared.2, .inline⟩ := by
  refine (yields_extension id target mode).mapError.bind fun extended hextended => ?_
  refine (yields_refuse _ _ _).bind fun _ hpriority => ?_
  refine (Yields.any _).bind fun _ _ => (Yields.any _).bind fun directives _ => ?_
  rcases hextended with rfl | ⟨hmode, hne, rfl⟩
  · exact .ok ⟨⟨htarget, fun _ h => Option.some.inj h, nofun⟩, nofun⟩
  · rw [hmode] at hpriority ⊢
    refine .ok ⟨⟨hid, nofun, fun _ h => ⟨?_, rfl⟩⟩, fun _ => by simpa using hpriority⟩
    cases h; exact hne

theorem yields_declare_fits {e : LocatedElement}
    (hid : (e.attributes.get? "id").any Text.isBlankText = false) (mode : Option Mode)
    (priority : Option Int) :
    Yields (declare e mode priority) fun declared =>
      Fits priority ⟨declared.1, declared.2, .inline⟩ := by
  rw [declare]
  split
  · exact yields_root_fits e hid mode priority
  · exact (yields_refuse _ _ _).bind fun _ htarget => yields_patch_fits e hid mode priority htarget

theorem yields_template_fits (name : String) (e : LocatedElement) :
    Yields (template name e) fun t =>
      t.Fitting ∧ (t.isLayer = false → e.attributes.get? "priority" = none) := by
  rw [template_eq]
  refine (yields_checkId e).bind fun _ hid => (Yields.any _).bind fun mode _ => ?_
  have hpriority : Yields (optional e.attributes "priority" none fun s =>
      some <$> demand e.span (.notInteger s) (Text.readInt32? (Text.trimList s.toList)))
      fun priority => priority = none → e.attributes.get? "priority" = none :=
    yields_optional (fun hnone _ => hnone) fun _ => (Yields.any _).map fun _ _ => nofun
  refine hpriority.bind fun priority hwritten => ?_
  refine (yields_declare_fits hid mode priority).bind fun _ hfits => .ok ?_
  exact ⟨⟨hfits.1.1, hfits.1.2, hfits.1.3⟩, fun hlayer => hwritten (hfits.2 hlayer)⟩

/-- Collected results are those of the elements, one for each and in their order. -/
theorem forall₂_of_collect {ε α β : Type} {f : α → Except ε β} {as : List α} {bs : List β}
    (h : collect (as.map f) = .ok bs) : List.Forall₂ (fun a b => f a = .ok b) as bs := by
  induction as generalizing bs with
  | nil => cases h; exact .nil
  | cons a as ih =>
      cases ha : f a with
      | ok b =>
          rw [List.map_cons, ha, collect] at h
          cases hrest : collect (as.map f) with
          | ok rest => rw [hrest] at h; cases h; exact .cons ha (ih hrest)
          | error es => rw [hrest] at h; cases h
      | error e =>
          rw [List.map_cons, ha, collect] at h
          split at h <;> cases h

end Declaration

/-! ### Registering -/

/-- A batch of templates that fit their modes is refused only for an id that is defined twice. -/
theorem Store.checkBatch_of_fitting {s : Store} {ts : List Template} {e : StoreError}
    (hts : ∀ t ∈ ts, t.Fitting) :
    ∀ {taken : List String}, s.checkBatch taken ts = .error e →
      ∃ t ∈ ts, t.isLayer = false ∧ e = .duplicate t.id := by
  induction ts with
  | nil => intro taken h; cases h
  | cons t ts ih =>
      intro taken h
      obtain ⟨ht, hrest⟩ := List.forall_mem_cons.mp hts
      rw [checkBatch] at h
      split at h
      · rename_i e' he'
        cases h
        rw [refusal?, ht.id_not_blank, if_neg (by simp)] at he'
        split at he'
        · rename_i target htarget
          rw [if_pos (ht.layer target htarget).symm] at he'; cases he'
        · rename_i hlayered
          have hlayer : t.isLayer = false := by
            obtain ⟨id, body, origin⟩ := t
            cases body with
            | root content => rfl
            | copy target directives => rfl
            | layer target priority directives => cases hlayered
          split at he'
          · cases he'; exact ⟨t, List.mem_cons_self, hlayer, rfl⟩
          · cases he'
      · obtain ⟨u, hu, hlayer, he⟩ := ih hrest h
        exact ⟨u, List.mem_cons_of_mem t hu, hlayer, he⟩

/-- **Templates that are read are well formed.**  Whatever source is read, under whatever name and
with texts trimmed or not, each template that comes of it is well formed; a priority is written for
layers only; and no store refuses the batch of them for another reason than that the id of a
template that is no layer is defined twice. -/
theorem readTemplates_wellFormed {minify : Bool} {name source : String} {ts : List Template}
    (h : readTemplates minify name source = .ok ts) :
    (∀ t ∈ ts, t.WellFormed minify) ∧
      (∃ tree elements, Markup.readTree minify source.toList = .ok tree ∧
        Declaration.declarations tree = .ok elements ∧
        List.Forall₂ (fun e t => Declaration.template name e = .ok t ∧
          (t.isLayer = false → e.attributes.get? "priority" = none)) elements ts) ∧
      ∀ (s : Store) (e : StoreError), s.registerAll ts = .error e →
        ∃ t ∈ ts, t.isLayer = false ∧ e = .duplicate t.id := by
  obtain ⟨tree, elements, htree, helements, hts⟩ := readTemplates_eq_ok_iff.mp h
  obtain ⟨tree', htree', hparts⟩ := readTemplates_parts h
  obtain rfl : tree = tree' := Except.ok.inj (htree.symm.trans htree')
  have hread := Markup.yields_readTree minify source.toList tree htree
  have hdeclared := Declaration.forall₂_of_collect hts
  have hfitting : ∀ t ∈ ts, t.Fitting :=
    Declaration.yields_collect (List.forall_mem_map.mpr fun e _ t ht =>
      (Declaration.yields_template_fits name e t ht).1) ts hts
  refine ⟨fun t ht => ?_, ⟨tree, elements, htree, helements, ?_⟩, fun s e he => ?_⟩
  · exact ⟨hfitting t ht, fun nodes hnodes => (hparts t ht nodes hnodes).2 _ hread,
      fun nodes hnodes => (hparts t ht nodes hnodes).1⟩
  · exact hdeclared.imp fun e t ht => ⟨ht, (Declaration.yields_template_fits name e t ht).2⟩
  · rw [Store.registerAll] at he
    split at he
    · rename_i e' hcheck
      cases he
      exact Store.checkBatch_of_fitting hfitting hcheck
    · split at he <;> cases he

/-- A root, a layer with a priority and a copy; registered once more, the root is refused. -/
theorem readTemplates_wellFormed_twice :
    let source := "<templates><template id=\"a\"><BR k=\"1\"> x </template>" ++
      "<template extend=\"a\" priority=\" 2\"><patch path=\"/BR\" action=\"insertAfter\">" ++
      "<include template=\"b\"/></patch></template><template id=\"b\" extend=\"c\"/></templates>"
    ∃ ts, readTemplates true "a.html" source = .ok ts ∧
      ts.map (fun t => (t.id, t.mode?, t.priority)) =
        [("a", none, 0), ("a", some .inPlace, 2), ("b", some .copy, 0)] ∧
      (∀ t ∈ ts, t.WellFormed true) ∧
      ∃ s handles, Store.empty.registerAll ts = .ok (s, handles) ∧
        s.registerAll ts = .error (.duplicate "a") ∧
        ∃ t ∈ ts, t.isLayer = false ∧ StoreError.duplicate "a" = .duplicate t.id := by
  intro source
  obtain ⟨cs, tree, elements, ts, s, handles, hcs, htree, helements, hts, hids, hreg, hagain⟩ :
      ∃ cs tree elements ts s handles, source.toList = cs ∧
      Markup.readTree true cs = .ok tree ∧ Declaration.declarations tree = .ok elements ∧
      Declaration.collect (elements.map (Declaration.template "a.html")) = .ok ts ∧
      ts.map (fun t => (t.id, t.mode?, t.priority)) =
        [("a", none, 0), ("a", some .inPlace, 2), ("b", some .copy, 0)] ∧
      Store.empty.registerAll ts = .ok (s, handles) ∧
      s.registerAll ts = .error (.duplicate "a") := by
    refine ⟨?cs, ?tree, ?elements, ?ts, ?s, ?handles, ?hcs, ?htree, ?helements, ?hts, ?hids, ?hreg,
      ?hagain⟩
    case hcs =>
      simp only [source]
      rw [String.toList_append, String.toList_append, String.toList_ofList, String.toList_ofList,
        String.toList_ofList]
    case htree => cbv; rfl
    case helements => cbv; rfl
    case hts => cbv; rfl
    case hids => rfl
    case hreg => cbv; rfl
    case hagain => cbv
  have hread : readTemplates true "a.html" source = .ok ts :=
    readTemplates_eq_ok_iff.mpr ⟨tree, elements, hcs ▸ htree, helements, hts⟩
  obtain ⟨hwell, -, hrefused⟩ := readTemplates_wellFormed hread
  exact ⟨ts, hread, hids, hwell, s, handles, hreg, hagain, hrefused s _ hagain⟩

end MarkupTemplates
