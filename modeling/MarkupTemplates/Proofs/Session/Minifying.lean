import MarkupTemplates.Proofs.Compile.Minified
import MarkupTemplates.Proofs.Session.Rerendering

/-!
# Rendering minified

What a source is compiled to with `minify` is the minified tree of what it is compiled to without,
and the errors are the same (`compileSource_minify`), unless blank text is refused without `minify`
where nothing may stand: in an include, or in the attribute elements of the directive at which
compiling fails (`RenderError.RefusesBlank`).
-/

namespace MarkupTemplates

/-! ### Loading -/

/-- The error is that an include has children, and when minified it has none. -/
def LoadError.RefusesBlank (source : String) : LoadError → Prop
  | .source errors => RefusesBlankInclude source errors
  | .store _ => False

/-- **Minifying a source comes to minifying the store it is loaded into.** -/
theorem Store.tracks_load (s : Store) (name source : String) :
    Tracks (LoadError.RefusesBlank source) (fun r => (r.1.minified, r.2))
      (s.load false name source) (s.minified.load true name source) := by
  rw [load, load]
  rcases readTemplates_minify name source with hread | ⟨errors, hread, hrefuses⟩
  · rw [hread]
    cases readTemplates false name source with
    | error errors => exact .error _
    | ok ts =>
        simp only [Except.map, registerAll_minified]
        cases s.registerAll ts with
        | error e => exact .error _
        | ok r => exact .ok _
  · rw [hread]
    exact .excused hrefuses

/-! ### Compiling -/

/-- What an id of a source is compiled to that is loaded into an empty store. -/
def compileSource (settings : Settings) (source id : String) : Except RenderError Compiled := do
  let (s, _) ← (Store.empty.load settings.minify memorySource source).mapError .load
  (({ store := s } : Memo).compile s id).1.value.mapError .resolution

/-- Compiling an id of a source is resolving it in the store that the source is loaded into. -/
theorem compileSource_of_load {settings : Settings} {source : String} {s : Store}
    {handles : Noted (List Handle)} (id : String)
    (h : Store.empty.load settings.minify memorySource source = .ok (s, handles)) :
    compileSource settings source id = (s.resolve id).mapError .resolution := by
  rw [compileSource, h, ← Store.compile_of_load h id]
  rfl

theorem compileSource_of_load_error {settings : Settings} {source : String} {e : LoadError}
    (id : String) (h : Store.empty.load settings.minify memorySource source = .error e) :
    compileSource settings source id = .error (.load e) := by
  rw [compileSource, h]
  rfl

/-- Rendering prints the tree that is compiled, and fails as compiling does. -/
theorem render_eq (settings : Settings) (source id : String) :
    render settings source id =
      (compileSource settings source id).map fun c => Markup.markup c.tree := by
  rw [render, compileSource]
  cases Store.empty.load settings.minify memorySource source with
  | error e => rfl
  | ok r =>
      simp only [Except.mapError, bind, Except.bind]
      cases (({ store := r.1 } : Memo).compile r.1 id).1.value with
      | error e => rfl
      | ok c => rfl

/-- Without `minify`, blank text is refused in an include of the source, or the directive at which
compiling fails is refused for blank text in the attribute elements of its payload. -/
def RenderError.RefusesBlank (source : String) : RenderError → Prop
  | .load e => e.RefusesBlank source
  | .resolution e => ∃ s handles,
    Store.empty.load false memorySource source = .ok (s, handles) ∧ s.RefusesBlank e

/-- A source is compiled with `minify` as without, to the minified tree, unless blank text is
refused without. -/
theorem tracks_compileSource (settings : Settings) (source id : String) :
    Tracks (RenderError.RefusesBlank source) Compiled.minified
      (compileSource { settings with minify := false } source id)
      (compileSource { settings with minify := true } source id) := by
  have hload : Tracks (LoadError.RefusesBlank source) (fun r => (r.1.minified, r.2))
      (Store.empty.load false memorySource source) (Store.empty.load true memorySource source) :=
    Store.tracks_load .empty memorySource source
  cases hoff : Store.empty.load false memorySource source with
  | error e =>
      have hfirst : compileSource { settings with minify := false } source id =
          .error (.load e) := compileSource_of_load_error id hoff
      rw [hfirst]
      rcases hload with hon | ⟨_, he, hrefuses⟩
      · rw [hoff] at hon
        exact .of_eq (compileSource_of_load_error id hon)
      · cases hoff.symm.trans he
        exact .excused hrefuses
  | ok r =>
      obtain ⟨s, handles⟩ := r
      rcases hload with hon | ⟨_, he, -⟩
      · rw [hoff] at hon
        have hfirst : compileSource { settings with minify := false } source id =
            (s.resolve id).mapError .resolution := compileSource_of_load id hoff
        have hsecond : compileSource { settings with minify := true } source id =
            (s.minified.resolve id).mapError .resolution := compileSource_of_load id hon
        rw [hfirst, hsecond]
        have hresolve :=
          (Store.load_eq_ok hoff).1.tracks_resolve (Store.load_eq_ok hon).1 id
        exact hresolve.mapError fun e he => ⟨s, handles, hoff, he⟩
      · cases hoff.symm.trans he

/-- **Minifying is about texts only.**  Let an id of a source be compiled without `minify` and with
it.  The second run succeeds with the minified tree of the first, or fails with the same error as
the first, unless the first refuses blank text where nothing may stand.  Rendering prints the
tree. -/
theorem compileSource_minify (settings : Settings) (source id : String) :
    let off := compileSource { settings with minify := false } source id
    let on := compileSource { settings with minify := true } source id
    (on = off.map Compiled.minified ∨ ∃ e, off = .error e ∧ e.RefusesBlank source) ∧
    render { settings with minify := false } source id = off.map (Markup.markup ·.tree) ∧
    render { settings with minify := true } source id = on.map (Markup.markup ·.tree) :=
  ⟨tracks_compileSource settings source id, render_eq _ _ _, render_eq _ _ _⟩

/-! ### Refused blank text -/

section

variable {settings : Settings} {source id : String} {cs : List Char} {tree : List Markup.Located}
  {elements : List Markup.LocatedElement}

/-- Rendering a source whose reading and compiling are known step by step. -/
theorem render_of_declarations {ts : List Template} {s : Store} {handles : Noted (List Handle)}
    {outcome : Outcome} (hcs : source.toList = cs)
    (htree : Markup.readTree settings.minify cs = .ok tree)
    (helements : Declaration.declarations tree = .ok elements)
    (hts : Declaration.collect (elements.map (Declaration.template memorySource)) = .ok ts)
    (hreg : Store.empty.registerAll ts = .ok (s, handles))
    (hcompile : (({ store := s } : Memo).compile s id).1.value = outcome) :
    render settings source id =
      (outcome.mapError RenderError.resolution).map (Markup.markup ·.tree) := by
  obtain ⟨noted, hload⟩ := Store.load_of_declarations hcs htree helements hts hreg
  rw [render_eq, compileSource_of_load id hload, ← hcompile, Store.compile_of_load hload id]

/-- Rendering a source whose templates are known to be faulty. -/
theorem render_of_faults {errors : List SourceError} (hcs : source.toList = cs)
    (htree : Markup.readTree settings.minify cs = .ok tree)
    (helements : Declaration.declarations tree = .ok elements)
    (herrors : Declaration.collect (elements.map (Declaration.template memorySource)) =
      .error errors) :
    render settings source id = .error (.load (.source errors)) := by
  have hload : Store.empty.load settings.minify memorySource source = .error (.source errors) := by
    rw [Store.load, readTemplates, hcs, htree]
    simp only [helements, herrors]
  rw [render_eq, compileSource_of_load_error id hload]
  rfl

end

set_option maxRecDepth 4000 in
/-- Blank text in an include, and in an attribute element: each source renders with `minify` and
does not without. -/
theorem render_blank_refused :
    let blankInclude := "<templates><template id=\"a\"><include template=\"b\"> </include>" ++
      "</template><template id=\"b\"><p/></template></templates>"
    let blankAttribute := "<templates><template id=\"a\"><p/></template><template extend=\"a\">" ++
      "<patch path=\"p\" action=\"setAttributes\"><attribute class=\"c\"> </attribute></patch>" ++
      "</template></templates>"
    (render { minify := true } blankInclude "a" = .ok "<p/>" ∧
      render { minify := false } blankInclude "a" =
        .error (.load (.source [DeclarationFault.filledInclude.at ⟨28, 61⟩]))) ∧
    render { minify := true } blankAttribute "a" = .ok "<p class=\"c\"/>" ∧
    render { minify := false } blankAttribute "a" =
      .error (.resolution (.invalidPayload "a" .setAttributes .notAttributes)) := by
  intro blankInclude blankAttribute
  refine ⟨⟨?_, ?_⟩, ?_, ?_⟩
  · refine (render_of_declarations (?hcs1 : _ = ?cs1) (?htree1 : _ = Except.ok ?tree1)
      (?helements1 : _ = Except.ok ?elements1) (?hts1 : _ = Except.ok ?ts1)
      (?hreg1 : _ = Except.ok (?s1, ?handles1)) (?hcompile1 : _ = ?outcome1)).trans ?hmarkup1
    case hcs1 =>
      simp only [blankInclude]
      rw [String.toList_append, String.toList_ofList, String.toList_ofList]
    case htree1 => cbv; rfl
    case helements1 => cbv; rfl
    case hts1 => cbv; rfl
    case hreg1 => cbv; rfl
    case hcompile1 => cbv; rfl
    case hmarkup1 => cbv
  · refine render_of_faults (?hcs2 : _ = ?cs2) (?htree2 : _ = Except.ok ?tree2)
      (?helements2 : _ = Except.ok ?elements2) ?herrors2
    case hcs2 =>
      simp only [blankInclude]
      rw [String.toList_append, String.toList_ofList, String.toList_ofList]
    case htree2 => cbv; rfl
    case helements2 => cbv; rfl
    case herrors2 => rfl
  · refine (render_of_declarations (?hcs3 : _ = ?cs3) (?htree3 : _ = Except.ok ?tree3)
      (?helements3 : _ = Except.ok ?elements3) (?hts3 : _ = Except.ok ?ts3)
      (?hreg3 : _ = Except.ok (?s3, ?handles3)) (?hcompile3 : _ = ?outcome3)).trans ?hmarkup3
    case hcs3 =>
      simp only [blankAttribute]
      rw [String.toList_append, String.toList_append, String.toList_ofList, String.toList_ofList,
        String.toList_ofList]
    case htree3 => cbv; rfl
    case helements3 => cbv; rfl
    case hts3 => cbv; rfl
    case hreg3 => cbv; rfl
    case hcompile3 => cbv; rfl
    case hmarkup3 => cbv
  · refine (render_of_declarations (?hcs4 : _ = ?cs4) (?htree4 : _ = Except.ok ?tree4)
      (?helements4 : _ = Except.ok ?elements4) (?hts4 : _ = Except.ok ?ts4)
      (?hreg4 : _ = Except.ok (?s4, ?handles4)) (?hcompile4 : _ = ?outcome4)).trans ?hmarkup4
    case hcs4 =>
      simp only [blankAttribute]
      rw [String.toList_append, String.toList_append, String.toList_ofList, String.toList_ofList,
        String.toList_ofList]
    case htree4 => cbv; rfl
    case helements4 => cbv; rfl
    case hts4 => cbv; rfl
    case hreg4 => cbv; rfl
    case hcompile4 => cbv; rfl
    case hmarkup4 => rfl

end MarkupTemplates
