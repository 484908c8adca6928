import MarkupTemplates.Proofs.Markup.RoundTrip
import MarkupTemplates.Proofs.Template.Includes

/-!
# Loading what was written

Nodes in normal form with sound includes, written as the content of a template, are loaded as one
root with these nodes (`readTemplates_markup`).
-/

namespace MarkupTemplates

open Markup (Node Attributes Located Normal Proper nodesOf)
open Text (Span)

/-- A node that is an element without its place is the element at some place. -/
theorem exists_of_nodesOf_eq_element {located : List Located} {tag : String}
    {attributes : Attributes} {nodes : List Node}
    (h : nodesOf located = [.element tag attributes nodes]) :
    ∃ children span, located = [.element tag attributes children span] ∧
      nodesOf children = nodes := by
  cases located with
  | nil => cases h
  | cons n ns =>
      cases n with
      | text content span => cases h
      | element tag' attributes' children span =>
          rw [nodesOf, Located.node, List.cons.injEq, Node.element.injEq] at h
          obtain ⟨⟨rfl, rfl, rfl⟩, hns⟩ := h
          obtain rfl := Declaration.nodesOf_eq_nil_iff.mp hns
          exact ⟨children, span, rfl, rfl⟩

/-- A template with nothing but an id is a root. -/
theorem template_of_checkNodes {children : List Located}
    (h : Declaration.checkNodes children = .ok ()) (name : String) (span : Span) :
    Declaration.template name ⟨templateTag, ⟨[("id", "t")]⟩, children, span⟩ =
      .ok ⟨"t", .root (nodesOf children), ⟨name, span⟩⟩ := by
  have hcontent : Declaration.content children = .ok (nodesOf children) := by
    rw [Declaration.content, h]; rfl
  have hblank : Text.isBlankText "t" = false := by decide
  simp [Declaration.template, Attributes.get?, List.lookup_cons, hblank, Declaration.root,
    Declaration.refuse, hcontent]
  rfl

/-- Markup between the tags of a template, as it is written. -/
theorem toList_template (nodes : List Node) :
    ("<template id=\"t\">" ++ Markup.markup nodes ++ "</template>").toList =
      '<' :: (Markup.tagContent templateTag ⟨[("id", "t")]⟩ ++ '>' ::
        (Markup.writeAll nodes ++ '<' :: '/' :: (templateTag.toList ++ ['>']))) := by
  have hopening : "<template id=\"t\">".toList =
      '<' :: (Markup.tagContent templateTag ⟨[("id", "t")]⟩ ++ ['>']) := by decide
  have hclosing : "</template>".toList = '<' :: '/' :: (templateTag.toList ++ ['>']) := by decide
  have hmarkup : (Markup.markup nodes).toList = Markup.writeAll nodes := String.toList_ofList
  rw [String.toList_append, String.toList_append, hopening, hclosing, hmarkup]
  simp

/-- Markup that is read as nodes with sound includes, between the tags of a template, is loaded as
one root that has them as its content. -/
theorem readTemplates_of_adds {minify : Bool} {written nodes : List Node} (name : String)
    (h : ∀ rest, Markup.Adds minify (Markup.writeAll written) nodes ('<' :: rest))
    (hincludes : SoundIncludes nodes) :
    ∃ span, readTemplates minify name
        ("<template id=\"t\">" ++ Markup.markup written ++ "</template>") =
      .ok [⟨"t", .root nodes, ⟨name, span⟩⟩] := by
  have hproper : Proper templateTag ⟨[("id", "t")]⟩ := ⟨by decide, by decide, by decide⟩
  have hvoid : Markup.isVoid templateTag = false := by decide +kernel
  obtain ⟨located, hlocated, hread⟩ :=
    Markup.readTree_of_adds (Markup.adds_enclosed hproper hvoid (h _))
  obtain ⟨children, span, rfl, rfl⟩ := exists_of_nodesOf_eq_element hlocated
  have htemplate := template_of_checkNodes
    ((Declaration.checkNodes_eq_ok_iff children).mpr hincludes) name span
  refine ⟨span, ?_⟩
  rw [readTemplates, toList_template, hread]
  change Declaration.collect [Declaration.template name _] = _
  rw [htemplate]
  rfl

/-- **Loading is inverse to writing.**  Nodes in normal form with sound includes, written between
the tags of a template, are loaded as one root that has them as its content. -/
theorem readTemplates_markup (minify : Bool) (name : String) {nodes : List Node}
    (h : Normal minify nodes) (hincludes : SoundIncludes nodes) :
    ∃ span, readTemplates minify name
        ("<template id=\"t\">" ++ Markup.markup nodes ++ "</template>") =
      .ok [⟨"t", .root nodes, ⟨name, span⟩⟩] :=
  readTemplates_of_adds name (fun _ => Markup.adds_writeAll h _) hincludes

/-- Values and texts full of what markup is written with, around an element without content. -/
theorem readTemplates_markup_include :
    ∃ span, readTemplates true "a.html" ("<template id=\"t\">" ++ Markup.markup
        [.element "p" ⟨[("title", "a > \"b\" & 'c'"), ("x:y", "")]⟩
          [.text "1 < 2 &amp; 3", .element "BR" ⟨[]⟩ []],
          .element "include" ⟨[("template", "u")]⟩ []] ++ "</template>") =
      .ok [⟨"t", .root [.element "p" ⟨[("title", "a > \"b\" & 'c'"), ("x:y", "")]⟩
          [.text "1 < 2 &amp; 3", .element "BR" ⟨[]⟩ []],
          .element "include" ⟨[("template", "u")]⟩ []], ⟨"a.html", span⟩⟩] := by
  have hp : Proper "p" ⟨[("title", "a > \"b\" & 'c'"), ("x:y", "")]⟩ :=
    ⟨by decide, by decide, by decide⟩
  have hbr : Proper "BR" ⟨[]⟩ := ⟨by decide, by decide, by decide⟩
  have hinclude : Proper "include" ⟨[("template", "u")]⟩ := ⟨by decide, by decide, by decide⟩
  have hvoid : Markup.isVoid "p" = false := by decide +kernel
  refine readTemplates_markup true "a.html" ?_ ?_
  · refine .element hp (fun h => ?_) (.text (by decide) (fun _ => by decide) nofun ?_) ?_
    · rw [hvoid] at h; cases h
    · exact .element hbr (fun _ => rfl) .nil .nil
    · exact .element hinclude (fun _ => rfl) .nil .nil
  · simp [SoundIncludes, SoundInclude, includeTag, includeKey, Attributes.get?]

end MarkupTemplates
