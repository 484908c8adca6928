import Mathlib
import MarkupTemplates.Proofs.Compile.Memory
import MarkupTemplates.Proofs.Compile.Trees
import MarkupTemplates.Proofs.Markup.Attributes
import MarkupTemplates.Proofs.Markup.Rereading
import MarkupTemplates.Proofs.Template.Loading
import MarkupTemplates.Proofs.Template.RoundTrip
import MarkupTemplates.Session.Basic

/-!
# Rendering what was rendered

The markup of a compiled tree, loaded as the content of a template, compiles to the markup of the
spilled tree (`render_markup_iff`).  It is the markup that was loaded exactly if no element that
never has content has got some from a directive.
-/

namespace MarkupTemplates

open Markup (Node Attributes Everywhere Adds Hollow Named Tidy isName nodesOf spillAll)

/-! ### The form of compiled trees -/

/-- The rule that reading and the names of a source make for its nodes. -/
def TreeRule.tidy (minify : Bool) : TreeRule where
  tag tag := isName tag = true
  attributes a := a.keys.Nodup ∧ ∀ key ∈ a.keys, isName key = true
  text content := content ≠ "" ∧ (minify = true → Text.trim content = content)
  empty := ⟨List.nodup_nil, nofun⟩
  merge := fun ha hb => ⟨Attributes.keys_nodup_merge ha.1 _, fun key hkey =>
    (Attributes.mem_keys_merge hkey).elim (ha.2 key) (hb.2 key)⟩

theorem TreeRule.holds_tidy {minify : Bool} {n : Node} :
    (TreeRule.tidy minify).Holds n ↔ Tidy minify n ∧ Named n := by
  cases n with
  | text content => exact ⟨fun h => ⟨h, trivial⟩, fun h => h.1⟩
  | element tag attributes children =>
      exact ⟨fun ⟨ht, hn, hk⟩ => ⟨hn, ht, hk⟩, fun ⟨hn, ht, hk⟩ => ⟨ht, hn, hk⟩⟩

/-! ### Loading into an empty store -/

section

variable {minify : Bool} {name source : String} {s : Store} {handles : Noted (List Handle)}

theorem Store.load_of_readTemplates {before : Store} {ts : List Template}
    (hts : readTemplates minify name source = .ok ts)
    (hreg : before.registerAll ts = .ok (s, handles)) :
    ∃ noted, before.load minify name source = .ok (s, noted) := by
  rw [load, hts]
  simp only [hreg]
  exact ⟨_, rfl⟩

theorem Store.load_eq_ok (h : Store.empty.load minify name source = .ok (s, handles)) :
    s.Indexed ∧ readTemplates minify name source = .ok s.templates := by
  obtain ⟨ts, noted, hts, hreg⟩ := exists_registerAll_of_load h
  refine ⟨(Registered.batch .empty hreg).indexed, ?_⟩
  rw [hts, templates_registerAll hreg]; rfl

/-- What is loaded from a source obeys what reading and the names of the source make sure of. -/
theorem Store.parts_of_load (h : Store.empty.load minify name source = .ok (s, handles))
    (hnames : ∀ tree, Markup.readTree minify source.toList = .ok tree →
      Everywhere Named (nodesOf tree)) :
    ∀ t ∈ s.templates, ∀ nodes ∈ t.parts,
      Everywhere (TreeRule.tidy minify).Written nodes ∧ Everywhere Hollow nodes := by
  obtain ⟨tree, htree, hparts⟩ := readTemplates_parts (load_eq_ok h).2
  have hread := Markup.yields_readTree minify source.toList tree htree
  intro t ht nodes hnodes
  obtain ⟨hsound, hall⟩ := hparts t ht nodes hnodes
  have hnamed := hall _ (hnames tree htree)
  have hform := hall _ hread
  refine ⟨Everywhere.imp (fun n hn => ?_) nodes ((hform.and hnamed).and hsound.named),
    Everywhere.imp (fun n hn => hn.2) nodes hform⟩
  exact ⟨TreeRule.holds_tidy.mpr ⟨hn.1.1.1, hn.1.2⟩, hn.2⟩

/-- **Every compiled tree is tidy, has names only and no include.** -/
theorem Store.everywhere_resolve_of_load
    (h : Store.empty.load minify name source = .ok (s, handles))
    (hnames : ∀ tree, Markup.readTree minify source.toList = .ok tree →
      Everywhere Named (nodesOf tree)) {id : String} {c : Compiled} (hc : s.resolve id = .ok c) :
    Everywhere (fun n => Tidy minify n ∧ Named n) c.tree ∧ IncludeFree c.tree := by
  have hparts : ∀ t ∈ s.templates, ∀ nodes ∈ t.parts,
      Everywhere (TreeRule.tidy minify).Written nodes :=
    fun t ht nodes hnodes => (parts_of_load h hnames t ht nodes hnodes).1
  have hall := (load_eq_ok h).1.everywhere_resolve
    (TreeRule.tidy minify).reachedFrom_written hparts id c hc
  refine ⟨Everywhere.imp (fun n hn => ?_) c.tree hall, Everywhere.imp (fun n hn => ?_) c.tree hall⟩
  · exact TreeRule.holds_tidy.mp (TreeRule.holds_withoutIncludes.mp hn).1
  · exact (TreeRule.holds_withoutIncludes.mp hn).2

/-- A new memo answers as the store without a memory would. -/
theorem Store.compile_of_load (h : Store.empty.load minify name source = .ok (s, handles))
    (id : String) : (({ store := s } : Memo).compile s id).1.value = s.resolve id :=
  ((Memo.serves_new s).compile (load_eq_ok h).1 id).1

end

/-! ### Rendering -/

theorem render_of_load {settings : Settings} {source : String} {s : Store}
    {handles : Noted (List Handle)} {id : String} {c : Compiled}
    (h : Store.empty.load settings.minify memorySource source = .ok (s, handles))
    (hc : s.resolve id = .ok c) : render settings source id = .ok (Markup.markup c.tree) := by
  have hcompile := (Store.compile_of_load h id).trans hc
  simp only [render, h, Except.mapError, bind, Except.bind, hcompile]
  rfl

theorem exists_registerAll_root (content : List Node) (origin : Origin) : ∃ s handles,
    Store.empty.registerAll [⟨"t", .root content, origin⟩] = .ok (s, handles) := by
  have hblank : Text.isBlankText "t" = false := by decide
  refine Store.exists_registerAll_of_refusal? ?_
  simp [Store.refusal?, hblank, Template.layered?, Store.contains, Store.definition?, Store.slot?,
    Store.empty]

/-- Markup that is read as nodes without includes, between the tags of a template, is rendered to
what is written for these nodes. -/
theorem render_of_adds {settings : Settings} {written nodes : List Node}
    (h : ∀ rest, Adds settings.minify (Markup.writeAll written) nodes ('<' :: rest))
    (hfree : IncludeFree nodes) :
    render settings ("<template id=\"t\">" ++ Markup.markup written ++ "</template>") "t" =
      .ok (Markup.markup nodes) := by
  obtain ⟨span, hread⟩ := readTemplates_of_adds memorySource h hfree.sound
  obtain ⟨s, handles, hreg⟩ := exists_registerAll_root nodes ⟨memorySource, span⟩
  obtain ⟨noted, hload⟩ := Store.load_of_readTemplates hread hreg
  have hs := (Store.Registered.batch .empty hreg).indexed
  have htemplates := Store.templates_registerAll hreg
  exact render_of_load hload (hs.resolve_root htemplates rfl hfree)

/-- **What loading makes of the markup of a compiled tree.**  Let the tags and the keys of a source
be names, and let one of its templates compile.  The source has no content in elements that never
have any.  The markup of the compiled tree can always be loaded as the content of a template; it
compiles to the markup of the spilled tree, and to the markup that was loaded exactly if the tree
has no content in elements that never have any either. -/
theorem render_markup_iff {source : String} {s : Store} {handles : Noted (List Handle)}
    (hload : Store.empty.load ({} : Settings).minify memorySource source = .ok (s, handles))
    (hnames : ∀ tree, Markup.readTree ({} : Settings).minify source.toList = .ok tree →
      Everywhere Named (nodesOf tree)) {id : String} {c : Compiled}
    (hcompile : (({ store := s } : Memo).compile s id).1.value = .ok c) :
    (∀ t ∈ s.templates, ∀ nodes ∈ t.parts, Everywhere Hollow nodes) ∧
    render {} source id = .ok (Markup.markup c.tree) ∧
    ∃ out, render {} ("<template id=\"t\">" ++ Markup.markup c.tree ++ "</template>") "t" =
        .ok out ∧
      out = Markup.markup (spillAll c.tree) ∧
      (out = Markup.markup c.tree ↔ Everywhere Hollow c.tree) := by
  have hc : s.resolve id = .ok c := (Store.compile_of_load hload id).symm.trans hcompile
  obtain ⟨hform, hfree⟩ := Store.everywhere_resolve_of_load hload hnames hc
  obtain ⟨nodes, hadds, hwritten, hlacks⟩ := Markup.exists_adds_writeAll hform
  have hout : Markup.markup nodes = Markup.markup (spillAll c.tree) := by
    rw [Markup.markup, Markup.markup, hwritten]
  refine ⟨fun t ht nodes hnodes => (Store.parts_of_load hload hnames t ht nodes hnodes).2,
    render_of_load hload hc, Markup.markup nodes, render_of_adds hadds (hlacks includeTag hfree),
    hout, ?_⟩
  rw [hout, Markup.markup, Markup.markup, String.ofList_inj,
    Markup.writeAll_spillAll_eq_iff]

/-- The store after a source whose reading is known step by step. -/
theorem Store.load_of_declarations {minify : Bool} {name source : String} {cs : List Char}
    {tree : List Markup.Located} {elements : List Markup.LocatedElement} {ts : List Template}
    {before s : Store} {handles : Noted (List Handle)} (hcs : source.toList = cs)
    (htree : Markup.readTree minify cs = .ok tree)
    (helements : Declaration.declarations tree = .ok elements)
    (hts : Declaration.collect (elements.map (Declaration.template name)) = .ok ts)
    (hreg : before.registerAll ts = .ok (s, handles)) :
    ∃ noted, before.load minify name source = .ok (s, noted) :=
  load_of_readTemplates
    (readTemplates_eq_ok_iff.mpr ⟨tree, elements, hcs ▸ htree, helements, hts⟩) hreg

set_option maxRecDepth 4000 in
/-- A copy with a value to be escaped, a text next to a text, something before an element without
content, and an include. -/
theorem render_markup_iff_copy :
    let source := "<templates><template id=\"a\"><p>one<br/></p></template>" ++
      "<template id=\"b\" extend=\"a\">" ++
      "<patch path=\"p\" action=\"setAttributes\"><attribute class=\"1 &amp; 2\"/></patch>" ++
      "<patch path=\"p/br\" action=\"insertBefore\">two<i/></patch>" ++
      "<patch path=\"p\" action=\"insertAfter\"><include template=\"a\"/></patch>" ++
      "</template></templates>"
    ∃ s handles c,
      Store.empty.load ({} : Settings).minify memorySource source = .ok (s, handles) ∧
      (∀ tree, Markup.readTree ({} : Settings).minify source.toList = .ok tree →
        Everywhere Named (nodesOf tree)) ∧
      (({ store := s } : Memo).compile s "b").1.value = .ok c ∧
      Markup.markup c.tree =
        "<p class=\"1 &amp; 2\">onetwo<i/><br/></p><p>one<br/></p>" ∧
      render {} ("<template id=\"t\">" ++ Markup.markup c.tree ++ "</template>") "t" =
        .ok (Markup.markup c.tree) := by
  intro source
  obtain ⟨cs, tree, elements, ts, s, noted, c, hcs, htree, hnamed, helements, hts, hreg, hcompile,
      hmarkup, hhollow⟩ : ∃ cs tree elements ts s noted c,
      source.toList = cs ∧
      Markup.readTree ({} : Settings).minify cs = .ok tree ∧ Everywhere Named (nodesOf tree) ∧
      Declaration.declarations tree = .ok elements ∧
      Declaration.collect (elements.map (Declaration.template memorySource)) = .ok ts ∧
      Store.empty.registerAll ts = .ok (s, noted) ∧
      (({ store := s } : Memo).compile s "b").1.value = .ok c ∧
      Markup.markup c.tree = "<p class=\"1 &amp; 2\">onetwo<i/><br/></p><p>one<br/></p>" ∧
      Everywhere Hollow c.tree := by
    refine ⟨?cs, ?tree, ?elements, ?ts, ?s, ?noted, ?c, ?hcs, ?htree, ?hnamed, ?helements, ?hts,
      ?hreg, ?hcompile, ?hmarkup, ?hhollow⟩
    case hcs =>
      simp only [source]
      rw [String.toList_append, String.toList_append, String.toList_append, String.toList_append,
        String.toList_append, String.toList_ofList, String.toList_ofList, String.toList_ofList,
        String.toList_ofList, String.toList_ofList, String.toList_ofList]
    case htree => cbv; rfl
    case hnamed => decide +kernel
    case helements => cbv; rfl
    case hts => cbv; rfl
    case hreg => cbv; rfl
    case hcompile => cbv; rfl
    case hmarkup => cbv
    case hhollow => decide +kernel
  have hnames : ∀ other, Markup.readTree ({} : Settings).minify source.toList = .ok other →
      Everywhere Named (nodesOf other) := by
    intro other hother
    rw [hcs, htree] at hother
    cases hother; exact hnamed
  obtain ⟨handles, hload⟩ := Store.load_of_declarations hcs htree helements hts hreg
  obtain ⟨-, -, out, hout, -, hiff⟩ := render_markup_iff hload hnames hcompile
  refine ⟨s, handles, c, hload, hnames, hcompile, hmarkup, ?_⟩
  rw [hout, hiff.mpr hhollow]

set_option maxRecDepth 4000 in
/-- A directive that puts a text into an element that never has content: what is rendered does not
render to itself. -/
theorem render_filled_void :
    let source := "<templates><template id=\"a\"><br/></template>" ++
      "<template extend=\"a\"><patch path=\"br\" action=\"insertInside\">x</patch></template>" ++
      "</templates>"
    (∃ tree, Markup.readTree ({} : Settings).minify source.toList = .ok tree ∧
      Everywhere Named (nodesOf tree)) ∧
    render {} source "a" = .ok "<br>x</br>" ∧
    render {} ("<template id=\"t\">" ++ "<br>x</br>" ++ "</template>") "t" = .ok "<br/>x" := by
  intro source
  obtain ⟨cs, tree, elements, ts, s, noted, c, hcs, htree, hnamed, helements, hts, hreg, hcompile,
      hmarkup⟩ : ∃ cs tree elements ts s noted c,
      source.toList = cs ∧
      Markup.readTree ({} : Settings).minify cs = .ok tree ∧ Everywhere Named (nodesOf tree) ∧
      Declaration.declarations tree = .ok elements ∧
      Declaration.collect (elements.map (Declaration.template memorySource)) = .ok ts ∧
      Store.empty.registerAll ts = .ok (s, noted) ∧
      (({ store := s } : Memo).compile s "a").1.value = .ok c ∧
      Markup.markup c.tree = "<br>x</br>" := by
    refine ⟨?cs, ?tree, ?elements, ?ts, ?s, ?noted, ?c, ?hcs, ?htree, ?hnamed, ?helements, ?hts,
      ?hreg, ?hcompile, ?hmarkup⟩
    case hcs =>
      simp only [source]
      rw [String.toList_append, String.toList_append, String.toList_ofList, String.toList_ofList,
        String.toList_ofList]
    case htree => cbv; rfl
    case hnamed => decide +kernel
    case helements => cbv; rfl
    case hts => cbv; rfl
    case hreg => cbv; rfl
    case hcompile => cbv; rfl
    case hmarkup => cbv
  obtain ⟨handles, hload⟩ := Store.load_of_declarations hcs htree helements hts hreg
  have hc : s.resolve "a" = .ok c := (Store.compile_of_load hload "a").symm.trans hcompile
  refine ⟨⟨tree, hcs ▸ htree, hnamed⟩, hmarkup ▸ render_of_load hload hc, ?_⟩
  cbv

end MarkupTemplates
