import Mathlib
import MarkupTemplates.Proofs.Compile.Trees
import MarkupTemplates.Proofs.Markup.Attributes
import MarkupTemplates.Proofs.Session.Runs

/-!
# The messages of compiled trees

Messages are listed from the templates of a store as they are written.  A compiled tree has no text
and no pair of attributes that is not in one of them, whichever way it came into the tree, so its
messages are among those listed (`messages_of_answer_compile`).  Their contexts differ: what a tree
got from another template is listed under the id of that one.
-/

namespace MarkupTemplates

open Markup (Node Attributes Everywhere everywhere_nil everywhere_cons)

variable {r : MessageRule} {known : List String}

/-- The rule that the messages of a tree are among given texts. -/
def TreeRule.listed (r : MessageRule) (known : List String) : TreeRule where
  tag _ := True
  attributes a := ∀ pair ∈ a.toList, r.isTranslatable pair.1 = true →
    ∀ message, r.normalize? pair.2 = some message → message ∈ known
  text content := ∀ message, r.normalize? content = some message → message ∈ known
  empty := nofun
  merge := fun ha hb pair hpair => (Attributes.mem_merge hpair).elim (ha pair) (hb pair)

namespace MessageRule

theorem message?_eq_some_iff {context text : String} {m : Message} :
    r.message? context text = some m ↔ ∃ t, r.normalize? text = some t ∧ ⟨context, t⟩ = m := by
  rw [message?, Option.map_eq_some_iff]

/-- A message of attributes comes from the value of a translatable one. -/
theorem mem_messagesInAttributes {context tag : String} {attributes : Attributes} {m : Message} :
    m ∈ r.messagesInAttributes context tag attributes ↔
      ∃ pair ∈ attributes.toList, r.isTranslatable pair.1 = true ∧
        ∃ t, r.normalize? pair.2 = some t ∧ ⟨context ++ ":" ++ tag ++ ":" ++ pair.1, t⟩ = m := by
  rw [messagesInAttributes, List.mem_filterMap]
  refine exists_congr fun (key, value) => and_congr_right fun _ => ?_
  cases htranslatable : r.isTranslatable key with
  | false => simp [htranslatable]
  | true => simp [htranslatable, message?_eq_some_iff]

/-- What the rule asks of attributes is that their messages are among the texts. -/
theorem attributes_listed_iff {context tag : String} {attributes : Attributes} :
    (TreeRule.listed r known).attributes attributes ↔
      ∀ m ∈ r.messagesInAttributes context tag attributes, m.text ∈ known := by
  constructor
  · intro h m hm
    obtain ⟨pair, hpair, htranslatable, t, ht, rfl⟩ := mem_messagesInAttributes.mp hm
    exact h pair hpair htranslatable t ht
  · intro h pair hpair htranslatable t ht
    exact h _ (mem_messagesInAttributes.mpr ⟨pair, hpair, htranslatable, t, ht, rfl⟩)

mutual

/-- All texts of a node are listed, at every depth, exactly if its messages are. -/
theorem everywhere_listedNode_iff (context : String) : ∀ n : Node,
    n.Everywhere (TreeRule.listed r known).Holds ↔
      ∀ m ∈ r.messagesInNode context n, m.text ∈ known
  | .text content => by
      rw [Node.everywhere_text, messagesInNode]
      constructor
      · intro h m hm
        obtain ⟨t, ht, rfl⟩ := message?_eq_some_iff.mp (Option.mem_toList.mp hm)
        exact h t ht
      · intro h t ht
        exact h _ (Option.mem_toList.mpr (message?_eq_some_iff.mpr ⟨t, ht, rfl⟩))
  | .element tag attributes children => by
      rw [Node.everywhere_element, messagesInNode, List.forall_mem_append,
        ← attributes_listed_iff, everywhere_listed_iff context children]
      exact and_congr_left fun _ => ⟨fun h => h.2, fun h => ⟨trivial, h⟩⟩

/-- **A tree follows the rule if and only if its messages are among the texts**, whatever context
they are listed with. -/
theorem everywhere_listed_iff (context : String) : ∀ ns : List Node,
    Everywhere (TreeRule.listed r known).Holds ns ↔
      ∀ m ∈ r.messagesInNodes context ns, m.text ∈ known
  | [] => by
      rw [messagesInNodes]
      exact ⟨fun _ => nofun, fun _ => everywhere_nil⟩
  | n :: ns => by
      rw [everywhere_cons, messagesInNodes, List.forall_mem_append,
        everywhere_listedNode_iff context n, everywhere_listed_iff context ns]

end

end MessageRule

/-- The messages of a compiled tree are among those of the templates of the store. -/
theorem Store.Indexed.messages_resolve {s : Store} (hs : s.Indexed) (r : MessageRule)
    {id : String} {c : Compiled} (hc : s.resolve id = .ok c) (name : String) :
    ∀ m ∈ r.messagesIn name c.tree, ∃ entry ∈ s.messages r, entry.text = m.text := by
  have hparts : ∀ t ∈ s.templates, ∀ nodes ∈ t.parts,
      Everywhere (TreeRule.listed r ((s.messages r).map (·.text))).Holds nodes := by
    intro t ht nodes hnodes
    refine (MessageRule.everywhere_listed_iff (r.contextPrefix ++ ":" ++ t.id) nodes).mpr ?_
    intro m hm
    exact List.mem_map_of_mem
      (List.mem_flatMap.mpr ⟨t, ht, List.mem_flatMap.mpr ⟨nodes, hnodes, hm⟩⟩)
  have htree := hs.everywhere_resolve (TreeRule.reachedFrom_holds _) hparts id c hc
  have hmessages :=
    (MessageRule.everywhere_listed_iff (r.contextPrefix ++ ":" ++ name) c.tree).mp htree
  exact fun m hm => List.mem_map.mp (hmessages m hm)

namespace Workspace

/-- **No message of a compiled tree is missing from the list.**  In any reachable workspace, let the
expressions of a session's settings be patterns.  Then its messages can be listed, and each message
of a tree that it compiles, under whichever id they are collected, has the text of one of them. -/
theorem messages_of_answer_compile {w : Workspace} (h : w.Reachable) {i : Nat} {session : Session}
    (hi : w.sessions[i]? = some session) {r : MessageRule}
    (hr : MessageRule.ofSettings session.settings = .ok r) :
    ∃ listed, w.messages session = .ok listed ∧
      ∀ id c, w.answer i (.compile id) = .outcome (.ok c) →
        ∀ name, ∀ m ∈ r.messagesIn name c.tree, ∃ entry ∈ listed, entry.text = m.text := by
  have hw : w.Coherent := h.coherent
  refine ⟨(w.storeOf session).messages r, ?_, ?_⟩
  · rw [messages, hr]
    rfl
  · intro id c hc name
    rw [hw.answer_compile hi, Answer.outcome.injEq] at hc
    exact (hw.indexed_storeOf session).messages_resolve r hc name

/-- A label that a copy sets on an element which a layer put into an included template. -/
theorem messages_of_answer_compile_layer :
    let calls : List (Nat × Operation) :=
      [(0, .registerAll [
          ⟨"a", .root [.element "div" ⟨[]⟩
            [.text "\x7b\x7b user \x7d\x7d", .element "include" ⟨[("template", "b")]⟩ []]], .inline⟩,
          ⟨"b", .root [.element "p" ⟨[("label", "Old")]⟩ [.text " Hello "]], .inline⟩,
          ⟨"c", .copy "a" [⟨⟨"//b", [⟨.descendant, .named "b", []⟩]⟩, .setAttributes,
            [.element "attribute" ⟨[("label", "New")]⟩ []], false, ⟨0, 0⟩⟩], .inline⟩]),
        (0, .register ⟨"b", .layer "b" 0 [⟨⟨"/p", [⟨.child, .named "p", []⟩]⟩, .insertInside,
            [.element "b" ⟨[]⟩ []], false, ⟨0, 0⟩⟩], .inline⟩)]
    let w := (start {}).run calls
    ∃ session r c,
      w.sessions[0]? = some session ∧ MessageRule.ofSettings session.settings = .ok r ∧
      w.answer 0 (.compile "c") = .outcome (.ok c) ∧
      r.messagesIn "c" c.tree =
        [⟨"template:c:p:label", "Old"⟩, ⟨"template:c", "Hello"⟩, ⟨"template:c:b:label", "New"⟩] ∧
      ∃ listed, w.messages session = .ok listed ∧
        ∀ m ∈ r.messagesIn "c" c.tree, ∃ entry ∈ listed, entry.text = m.text := by
  intro calls w
  obtain ⟨session, hsession⟩ : ∃ session, w.sessions[0]? = some session := ⟨_, rfl⟩
  let tree : List Node := [.element "div" ⟨[]⟩ [.text "\x7b\x7b user \x7d\x7d",
    .element "p" ⟨[("label", "Old")]⟩ [.text " Hello ", .element "b" ⟨[("label", "New")]⟩ []]]]
  obtain ⟨c, hc, htree⟩ : ∃ c, w.answer 0 (.compile "c") = .outcome (.ok c) ∧ c.tree = tree := by
    refine ⟨⟨"c", tree, [⟨"a", none, .inline⟩, ⟨"c", some .copy, .inline⟩]⟩, ?_, rfl⟩
    cbv
  have hread : (MessageRule.ofSettings {}).toOption.map (·.messagesIn "c" tree) = some
      [⟨"template:c:p:label", "Old"⟩, ⟨"template:c", "Hello"⟩, ⟨"template:c:b:label", "New"⟩] := by
    decide +kernel
  cases hr : MessageRule.ofSettings {} with
  | error e => rw [hr] at hread; cases hread
  | ok r =>
      rw [hr] at hread
      obtain ⟨listed, hlisted, hall⟩ :=
        messages_of_answer_compile (r := r) ⟨{}, calls, rfl⟩ hsession (by cases hsession; exact hr)
      refine ⟨session, r, c, hsession, by cases hsession; exact hr, hc, ?_, listed, hlisted, ?_⟩
      · rw [htree]; exact Option.some.inj hread
      · exact hall "c" c hc "c"

end Workspace

end MarkupTemplates
