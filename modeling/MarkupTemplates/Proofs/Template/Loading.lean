import MarkupTemplates.Proofs.Template.Expansion
import MarkupTemplates.Proofs.Tracks
import MarkupTemplates.Proofs.Yields

/-!
# What a source gives

The node lists of the templates that a source declares are children of elements of the tree that the
source is read as, and their includes are sound (`readTemplates_parts`).

`directive_eq` and `template_eq` say what an element declares as one computation after the other, so
that what is known of each of them can be put together.
-/

namespace MarkupTemplates

open Markup (Node Located LocatedElement Everywhere nodesOf everywhere_nil everywhere_cons
  everywhere_trivial)

variable {P : Node → Prop}

namespace Declaration

/-! ### Declarations step by step -/

/-- What is read of the value of an attribute, or the default if there is no such attribute. -/
def optional {α : Type} (attributes : Markup.Attributes) (key : String) (default : α)
    (read : String → Except SourceError α) : Except SourceError α :=
  match attributes.get? key with
  | none => .ok default
  | some s => read s

/-- An attribute that may be missing gives its default value or what reading its text gives. -/
theorem yields_optional {α : Type} {attributes : Markup.Attributes} {key : String} {default : α}
    {read : String → Except SourceError α} {Q : α → Prop}
    (hnone : attributes.get? key = none → Q default) (hsome : ∀ s, Yields (read s) Q) :
    Yields (optional attributes key default read) Q := by
  rw [optional]
  split
  · rename_i hkey
    exact .ok (hnone hkey)
  · exact hsome _

/-- A directive comes from the attributes of its element, checked one after the other, and then its
payload; the first check that fails decides the error. -/
theorem directive_eq (e : LocatedElement) : directive e = do
    refuse (e.tag != patchTag) e.span (.notDirective e.tag)
    let raw ← demand e.span .missingPath (e.attributes.get? "path")
    let path ← directivePath e.span raw
    let name ← demand e.span .missingAction (e.attributes.get? "action")
    let action ← demand e.span (.unknownAction name) (Action.ofName? name)
    let multiple ← optional e.attributes "mult" false fun flag =>
      demand e.span (.notFlag flag) (flag? flag)
    let payload ← content e.children
    return { path, action, payload, multiple, span := e.span } := by
  rw [directive, optional]
  cases e.attributes.get? "mult" with
  | none => rfl
  | some flag => rfl

/-- Refuses an id that is blank. -/
def checkId (e : LocatedElement) : Except SourceError Unit :=
  if (e.attributes.get? "id").any Text.isBlankText then .error (.missingId e.span) else .ok ()

theorem yields_checkId (e : LocatedElement) :
    Yields (checkId e) fun _ => (e.attributes.get? "id").any Text.isBlankText = false := by
  rw [checkId]
  split
  · exact .error _
  · exact .ok (by simpa using ‹¬ (e.attributes.get? "id").any Text.isBlankText = true›)

/-- The id and the body that an element declares with a mode and a priority. -/
def declare (e : LocatedElement) (mode : Option Mode) (priority : Option Int) :
    Except SourceError (String × Body) :=
  match e.attributes.get? "extend" with
  | none => root e (e.attributes.get? "id") mode priority
  | some target => do
    refuse (Text.isBlankText target) e.span .blankTarget
    patch e (e.attributes.get? "id") mode priority target

/-- A template comes from its id, its mode and its priority, checked in this order, and then what it
declares. -/
theorem template_eq (name : String) (e : LocatedElement) : template name e = do
    checkId e
    let mode ← optional e.attributes "mode" none fun s =>
      some <$> demand e.span (.unknownMode s) (Mode.ofName? s)
    let priority ← optional e.attributes "priority" none fun s =>
      some <$> demand e.span (.notInteger s) (Text.readInt32? (Text.trimList s.toList))
    let (id, body) ← declare e mode priority
    return { id, body, origin := ⟨name, e.span⟩ } := by
  unfold template checkId optional declare
  dsimp only
  cases (e.attributes.get? "id").any Text.isBlankText with
  | true => rfl
  | false =>
      cases e.attributes.get? "extend" with
      | none =>
          cases e.attributes.get? "mode" <;> cases e.attributes.get? "priority" <;> rfl
      | some target =>
          simp only [bind_assoc]
          cases e.attributes.get? "mode" <;> cases e.attributes.get? "priority" <;> rfl

/-! ### What is declared -/

/-- The nodes have a property, at every depth, and their includes are sound. -/
def Accepted (P : Node → Prop) (nodes : List Node) : Prop :=
  Everywhere P nodes ∧ SoundIncludes nodes

/-- What holds of a list of nodes holds of the rest of it, and of the children of its elements. -/
structure Hereditary (Q : List Located → Prop) : Prop where
  /-- It holds of the rest. -/
  tail {n : Located} {ns : List Located} : Q (n :: ns) → Q ns
  /-- It holds of the children of the first node. -/
  children {tag : String} {attributes : Markup.Attributes} {children : List Located}
    {span : Text.Span} {ns : List Located} : Q (.element tag attributes children span :: ns) →
      Q children

theorem hereditary_everywhere : Hereditary fun ns => Everywhere P (nodesOf ns) where
  tail h := (everywhere_cons.mp h).2
  children h := (Node.everywhere_element.mp (everywhere_cons.mp h).1).2

/-- The elements of a list have in their children what is hereditary in the list. -/
theorem Hereditary.yields_elementsOnly {Q : List Located → Prop} (hQ : Hereditary Q)
    (place : String) : ∀ {ns : List Located}, Q ns →
      Yields (elementsOnly place ns) fun es => ∀ e ∈ es, Q e.children
  | [], _ => .ok nofun
  | .element tag attributes children span :: rest, h => by
      refine (hQ.yields_elementsOnly place (hQ.tail h)).map fun es hes => ?_
      exact List.forall_mem_cons.mpr ⟨hQ.children h, hes⟩
  | .text content span :: rest, h => by
      rw [elementsOnly]
      split
      · exact hQ.yields_elementsOnly place (hQ.tail h)
      · exact .error _

/-- Content that passes its checks is accepted, as soon as all nodes obey the rule. -/
theorem yields_content {children : List Located} (h : Everywhere P (nodesOf children)) :
    Yields (content children) (Accepted P) := by
  have hcheck : Yields (checkNodes children) fun _ => SoundIncludes (nodesOf children) :=
    fun _ hok => (checkNodes_eq_ok_iff children).mp hok
  exact hcheck.bind fun _ hsound => .ok ⟨h, hsound⟩

/-- The payload of a directive is accepted, for it consists of children of its element. -/
theorem yields_directive {e : LocatedElement} (h : Everywhere P (nodesOf e.children)) :
    Yields (directive e) fun d => Accepted P d.payload := by
  rw [directive_eq]
  refine (Yields.any _).bind fun _ _ => (Yields.any _).bind fun raw _ => ?_
  refine (Yields.any _).bind fun path _ => (Yields.any _).bind fun name _ => ?_
  refine (Yields.any _).bind fun action _ => (Yields.any _).bind fun multiple _ => ?_
  exact (yields_content h).bind fun payload hpayload => .ok hpayload

theorem yields_root {e : LocatedElement} (h : Everywhere P (nodesOf e.children))
    (id : Option String) (mode : Option Mode) (priority : Option Int) :
    Yields (root e id mode priority) fun declared =>
      ∀ nodes ∈ Template.parts ⟨declared.1, declared.2, .inline⟩, Accepted P nodes := by
  refine (Yields.any _).bind fun _ _ => (Yields.any _).bind fun _ _ => ?_
  cases id with
  | none => exact .error _
  | some id =>
      refine (yields_content h).bind fun nodes hnodes => .ok ?_
      exact List.forall_mem_singleton.mpr hnodes

/-- All payloads of an extending template are accepted, for its directives are among the children of
its element. -/
theorem yields_patch {e : LocatedElement} (h : Everywhere P (nodesOf e.children))
    (id : Option String) (mode : Option Mode) (priority : Option Int) (target : String) :
    Yields (patch e id mode priority target) fun declared =>
      ∀ nodes ∈ Template.parts ⟨declared.1, declared.2, .inline⟩, Accepted P nodes := by
  refine (Yields.any _).bind fun declared _ => (Yields.any _).bind fun _ _ => ?_
  refine (hereditary_everywhere.yields_elementsOnly _ h).bind fun elements helements => ?_
  refine (Yields.mapM fun e he => yields_directive (helements e he)).bind fun ds hds => ?_
  cases declared.1 with
  | copy => exact .ok (List.forall_mem_map.mpr hds)
  | inPlace => exact .ok (List.forall_mem_map.mpr hds)

/-- Root or extension, all node lists of what an element declares are accepted. -/
theorem yields_declare {e : LocatedElement} (h : Everywhere P (nodesOf e.children))
    (mode : Option Mode) (priority : Option Int) :
    Yields (declare e mode priority) fun declared =>
      ∀ nodes ∈ Template.parts ⟨declared.1, declared.2, .inline⟩, Accepted P nodes := by
  rw [declare]
  split
  · exact yields_root h _ mode priority
  · exact (Yields.any _).bind fun _ _ => yields_patch h _ mode priority _

/-- All node lists of a template are accepted, if the children of its element obey the rule. -/
theorem yields_template (name : String) {e : LocatedElement}
    (h : Everywhere P (nodesOf e.children)) :
    Yields (template name e) fun t => ∀ nodes ∈ t.parts, Accepted P nodes := by
  rw [template_eq]
  refine (Yields.any _).bind fun _ _ => (Yields.any _).bind fun mode _ => ?_
  refine (Yields.any _).bind fun priority _ => ?_
  exact (yields_declare h mode priority).bind fun _ hdeclared => .ok hdeclared

/-- What the outermost elements of a source declare: nothing, one template, or those of a list. -/
inductive Declares : List LocatedElement → List LocatedElement → Prop where
  | nothing : Declares [] []
  | template {e : LocatedElement} : e.tag = templateTag → Declares [e] [e]
  | templates {e : LocatedElement} {es : List LocatedElement} : e.tag = templatesTag →
      elementsOnly "between templates" e.children = .ok es → (∀ e' ∈ es, e'.tag = templateTag) →
      Declares [e] es

/-- The templates of a source are declared by its outermost elements, of which there is one at most:
a template, or an element with nothing but templates in it. -/
theorem declarations_eq_ok_iff {nodes : List Located} {es : List LocatedElement} :
    declarations nodes = .ok es ↔
      ∃ outer, elementsOnly "outside of a template" nodes = .ok outer ∧ Declares outer es := by
  have htags : templatesTag ≠ templateTag := by decide
  rw [declarations]
  cases elementsOnly "outside of a template" nodes with
  | error e => exact ⟨nofun, fun ⟨_, h, _⟩ => nomatch h⟩
  | ok outer =>
      simp only [bind, Except.bind, Except.ok.injEq, exists_eq_left']
      constructor
      · intro h
        match outer, h with
        | [], h => cases h; exact .nothing
        | [e], h =>
            simp only at h
            split at h
            · rename_i htag
              cases h
              exact .template htag
            · split at h
              · rename_i htag
                cases hinner : elementsOnly "between templates" e.children with
                | error e' => rw [hinner] at h; cases h
                | ok elements =>
                    rw [hinner] at h
                    simp only at h
                    split at h
                    · cases h
                    · rename_i hfind
                      cases h
                      refine .templates htag hinner fun e' he' => ?_
                      simpa using List.find?_eq_none.mp hfind e' he'
              · cases h
      · intro h
        cases h with
        | nothing => rfl
        | template htag => simp only [if_pos htag]; rfl
        | templates htag hinner hall =>
            have hfind : es.find? (·.tag != templateTag) = none :=
              List.find?_eq_none.mpr fun e' he' => by simp [hall e' he']
            simp only [htag, if_neg htags, if_true, hinner, hfind]
            rfl

/-- The elements that declare templates have in their children what is hereditary in the source. -/
theorem Hereditary.yields_declarations {Q : List Located → Prop} (hQ : Hereditary Q)
    {nodes : List Located} (h : Q nodes) :
    Yields (declarations nodes) fun es => ∀ e ∈ es, Q e.children := by
  intro es hes
  obtain ⟨outer, houter, hdeclares⟩ := declarations_eq_ok_iff.mp hes
  have hall := hQ.yields_elementsOnly _ h outer houter
  cases hdeclares with
  | nothing => exact nofun
  | template _ => exact hall
  | @templates e es _ hinner _ =>
      exact hQ.yields_elementsOnly _ (hall e List.mem_cons_self) es hinner

/-- Results that are collected without an error have what each of them has. -/
theorem yields_collect {ε α : Type} {Q : α → Prop} {results : List (Except ε α)}
    (h : ∀ r ∈ results, Yields r Q) : Yields (collect results) fun as => ∀ a ∈ as, Q a := by
  induction results with
  | nil => exact .ok nofun
  | cons r rest ih =>
      have hrest := ih fun r' hr' => h r' (List.mem_cons_of_mem r hr')
      cases r with
      | ok a =>
          refine hrest.map fun as has => List.forall_mem_cons.mpr ⟨?_, has⟩
          exact h (.ok a) List.mem_cons_self a rfl
      | error e =>
          rw [collect]
          split <;> exact .error _

/-- The errors that a collection fails with. -/
theorem collect_error {ε α : Type} {e : ε} {rest : List (Except ε α)} :
    collect (.error e :: rest) = .error (e :: match collect rest with
      | .ok _ => []
      | .error es => es) := by
  rw [collect]
  cases collect rest with
  | ok _ => rfl
  | error es => rfl

/-- Collected results track each other one by one; an excuse for one of the errors excuses all of
them, for they come together. -/
theorem tracks_collect {ε α β γ δ : Type} {excuse : ε → Prop} {f : α → β} {g : γ → δ}
    {k : α → Except ε γ} {l : β → Except ε δ} {as : List α}
    (h : ∀ a ∈ as, Tracks excuse g (k a) (l (f a))) :
    Tracks (fun es => ∃ e ∈ es, excuse e) (List.map g) (collect (as.map k))
      (collect ((as.map f).map l)) := by
  induction as with
  | nil => exact .ok []
  | cons a as ih =>
      obtain ⟨ha, has⟩ := List.forall_mem_cons.mp h
      rw [List.map_cons, List.map_cons, List.map_cons]
      cases hk : k a with
      | ok c =>
          rcases ha with ha | ⟨_, he, -⟩
          · rw [ha, hk, Except.map, collect, collect]
            exact (ih has).map fun cs => rfl
          · cases hk.symm.trans he
      | error e =>
          rw [collect_error]
          rcases ha with ha | ⟨_, he, hexcuse⟩
          · rw [ha, hk, Except.map, collect_error]
            rcases ih has with hrest | ⟨es, hrest, e', he', hexcuse⟩
            · rw [hrest]
              cases collect (as.map k) with
              | ok _ => exact .error _
              | error es => exact .error _
            · rw [hrest]
              exact .excused ⟨e', List.mem_cons_of_mem e he', hexcuse⟩
          · cases hk.symm.trans he
            exact .excused ⟨e, List.mem_cons_self, hexcuse⟩

end Declaration

variable {minify : Bool} {name source : String} {ts : List Template}

/-- What it takes to read templates from a source. -/
theorem readTemplates_eq_ok_iff :
    readTemplates minify name source = .ok ts ↔
      ∃ tree elements, Markup.readTree minify source.toList = .ok tree ∧
        Declaration.declarations tree = .ok elements ∧
        Declaration.collect (elements.map (Declaration.template name)) = .ok ts := by
  rw [readTemplates]
  constructor
  · intro h
    split at h
    · cases h
    · rename_i tree htree
      split at h
      · cases h
      · rename_i elements helements
        exact ⟨tree, elements, htree, helements, h⟩
  · rintro ⟨tree, elements, htree, helements, hts⟩
    simp only [htree, helements, hts]

/-- **The node lists of templates that were loaded** come from the tree of the source: what holds of
all nodes of the tree holds of all nodes in them, and their includes are sound. -/
theorem readTemplates_parts (h : readTemplates minify name source = .ok ts) :
    ∃ tree, Markup.readTree minify source.toList = .ok tree ∧
      ∀ t ∈ ts, ∀ nodes ∈ t.parts, SoundIncludes nodes ∧
        ∀ P, Everywhere P (nodesOf tree) → Everywhere P nodes := by
  obtain ⟨tree, elements, htree, helements, hts⟩ := readTemplates_eq_ok_iff.mp h
  refine ⟨tree, htree, fun t ht nodes hnodes => ?_⟩
  have accepted : ∀ P, Everywhere P (nodesOf tree) → Declaration.Accepted P nodes := by
    intro P hP
    have hall := Declaration.hereditary_everywhere.yields_declarations hP elements helements
    have htemplates := Declaration.yields_collect (List.forall_mem_map.mpr fun e he =>
      Declaration.yields_template name (hall e he))
    exact htemplates ts hts t ht nodes hnodes
  exact ⟨(accepted _ (everywhere_trivial _)).2, fun P hP => (accepted P hP).1⟩

end MarkupTemplates
