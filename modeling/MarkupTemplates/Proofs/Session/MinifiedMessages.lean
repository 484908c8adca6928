import Mathlib
import MarkupTemplates.Proofs.Session.Minifying
import MarkupTemplates.Proofs.Session.Runs

/-!
# Messages of minified sources

A message is a text without line breaks, trimmed, and no message is empty.  So the texts that
minifying trims are the same messages before and afterwards, and the texts that it drops are none
(`MessageRule.normalize?_trim`); and a source that loads without `minify` has the same messages with
it, in the same order and with the same contexts (`messages_perform_load_minify`).
-/

namespace MarkupTemplates

open Markup (Node Attributes minified)

namespace MessageRule

variable {r : MessageRule} {context : String}

/-- **A text is the same message before it is trimmed and afterwards.** -/
theorem normalize?_trim (text : String) : r.normalize? (Text.trim text) = r.normalize? text := by
  have htrim : Text.trim (String.ofList ((Text.trim text).toList.filter (· != '\n'))) =
      Text.trim (String.ofList (text.toList.filter (· != '\n'))) := by
    simp only [Text.trim, String.toList_ofList, Text.trimList_filter_trimList]
  rw [normalize?, normalize?, htrim]

/-- Blanks around a text are no part of its message. -/
theorem message?_trim (text : String) :
    r.message? context (Text.trim text) = r.message? context text := by
  rw [message?, message?, normalize?_trim]

/-- A text of which nothing is left is no message. -/
theorem message?_eq_none_of_trim {text : String} (h : Text.trim text = "") :
    r.message? context text = none := by
  have hempty : r.normalize? "" = none := rfl
  rw [← message?_trim, h, message?, hempty, Option.map_none]

theorem messagesInNodes_append {ms ns : List Node} :
    r.messagesInNodes context (ms ++ ns) =
      r.messagesInNodes context ms ++ r.messagesInNodes context ns := by
  induction ms with
  | nil => rfl
  | cons m ms ih => rw [List.cons_append, messagesInNodes, messagesInNodes, ih, List.append_assoc]

theorem messagesInNodes_singleton {n : Node} :
    r.messagesInNodes context [n] = r.messagesInNode context n := by
  rw [messagesInNodes, messagesInNodes, List.append_nil]

mutual

/-- A minified node has the messages of the node. -/
theorem messagesInNode_minified : ∀ n : Node,
    r.messagesInNodes context n.minified = r.messagesInNode context n
  | .element tag attributes children => by
      rw [Node.minified, messagesInNodes_singleton, messagesInNode, messagesInNode,
        messagesInNodes_minified children]
  | .text content => by
      rw [Node.minified, messagesInNode]
      split
      · rename_i hempty
        rw [message?_eq_none_of_trim hempty]
        rfl
      · rw [messagesInNodes_singleton, messagesInNode, message?_trim]

/-- **Minified nodes have the messages of the nodes.** -/
theorem messagesInNodes_minified : ∀ ns : List Node,
    r.messagesInNodes context (minified ns) = r.messagesInNodes context ns
  | [] => by rw [minified]
  | n :: ns => by
      rw [minified, messagesInNodes_append, messagesInNode_minified n,
        messagesInNodes_minified ns, messagesInNodes]

end

/-- A minified template has the messages of the template. -/
theorem messagesOf_minified {t : Template} : r.messagesOf t.minified = r.messagesOf t := by
  rw [messagesOf, messagesOf, Template.minified_parts, List.flatMap_map]
  exact congrArg (t.parts.flatMap ·) (funext messagesInNodes_minified)

end MessageRule

/-- **A store with its templates minified has the same messages.** -/
theorem Store.messages_minified {s : Store} (r : MessageRule) :
    s.minified.messages r = s.messages r := by
  rw [messages, messages, show s.minified.templates = s.templates.map Template.minified from rfl,
    List.flatMap_map]
  exact congrArg (s.templates.flatMap ·) (funext fun t => MessageRule.messagesOf_minified)

/-- **What loads without `minify` loads with it**, with the same receipts, into the store with the
templates minified. -/
theorem Store.load_minify {s after : Store} {name source : String} {handles : Noted (List Handle)}
    (h : s.load false name source = .ok (after, handles)) :
    s.minified.load true name source = .ok (after.minified, handles) :=
  (s.tracks_load name source).of_ok h

namespace Workspace

/-- The workspace with one session whose first source has been loaded. -/
def loaded (settings : Settings) (s : Store) : Workspace :=
  ⟨[s], [⟨settings, 0, { store := .empty }⟩]⟩

section

variable {settings : Settings} {name source : String} {s : Store} {noted : Noted (List Handle)}

theorem sessions_loaded :
    (loaded settings s).sessions[0]? = some ⟨settings, 0, { store := .empty }⟩ := rfl

theorem storeOf_loaded {session : Session}
    (h : (loaded settings s).sessions[0]? = some session) :
    (loaded settings s).storeOf session = s := by
  cases sessions_loaded.symm.trans h
  rfl

theorem messages_loaded {session : Session}
    (h : (loaded settings s).sessions[0]? = some session) :
    (loaded settings s).messages session = (MessageRule.ofSettings settings).map s.messages := by
  rw [messages, storeOf_loaded h]
  cases sessions_loaded.symm.trans h
  rfl

theorem perform_start (settings : Settings) (name source : String) :
    (start settings).perform 0 (.load name source) =
      (start settings).registering .notLoaded
        ((Store.empty.load settings.minify name source).map fun (s, handles) =>
          (loaded settings s, handles)) := rfl

/-- A first source that can be loaded is answered with the receipts. -/
theorem perform_start_of_load
    (h : Store.empty.load settings.minify name source = .ok (s, noted)) :
    (start settings).perform 0 (.load name source) =
      (loaded settings s, ⟨.handles noted.value, noted.notices⟩) := by
  rw [perform_start, h]
  rfl

/-- A first source that is answered with receipts has been loaded. -/
theorem load_of_perform_start {w : Workspace}
    (h : (start settings).perform 0 (.load name source) =
      (w, ⟨.handles noted.value, noted.notices⟩)) :
    ∃ s, Store.empty.load settings.minify name source = .ok (s, noted) ∧ w = loaded settings s := by
  obtain ⟨handles, notices⟩ := noted
  rw [perform_start] at h
  cases hload : Store.empty.load settings.minify name source with
  | error e => rw [hload] at h; cases h
  | ok r => rw [hload] at h; cases h; exact ⟨r.1, rfl, rfl⟩

end

/-- **The messages do not depend on `minify`.**  A source that loads without `minify` loads with it,
with the same receipts, and lists the same messages in the same order, or the same error in the
settings: for all settings, and for whatever else one takes for translatable, for an expression and
for the beginning of the contexts. -/
theorem messages_perform_load_minify (settings : Settings) (name source : String) {off : Workspace}
    {handles : Noted (List Handle)}
    (h : (start { settings with minify := false }).perform 0 (.load name source) =
      (off, ⟨.handles handles.value, handles.notices⟩)) :
    ∃ on, (start { settings with minify := true }).perform 0 (.load name source) =
        (on, ⟨.handles handles.value, handles.notices⟩) ∧
      ∃ offSession onSession,
        off.sessions[0]? = some offSession ∧ on.sessions[0]? = some onSession ∧
        on.messages onSession = off.messages offSession ∧
        ∀ r : MessageRule,
          (on.storeOf onSession).messages r = (off.storeOf offSession).messages r := by
  obtain ⟨s, hoff, rfl⟩ := load_of_perform_start h
  have hon : Store.empty.load true name source = .ok (s.minified, handles) :=
    Store.load_minify hoff
  have hmessages : ∀ r : MessageRule, s.minified.messages r = s.messages r :=
    fun r => Store.messages_minified r
  -- the rule that the settings ask for does not look at `minify`
  have hrule : MessageRule.ofSettings { settings with minify := true } =
      MessageRule.ofSettings { settings with minify := false } := rfl
  have hperform : (start { settings with minify := true }).perform 0 (.load name source) =
      (loaded { settings with minify := true } s.minified,
        ⟨.handles handles.value, handles.notices⟩) :=
    perform_start_of_load hon
  refine ⟨_, hperform, _, _, sessions_loaded, sessions_loaded, ?_, ?_⟩
  · rw [messages_loaded sessions_loaded, messages_loaded sessions_loaded, hrule, funext hmessages]
  · rw [storeOf_loaded sessions_loaded, storeOf_loaded sessions_loaded]
    exact hmessages

set_option maxRecDepth 4000 in
/-- A label with blanks around it, a line break inside a text and at its ends, a text of nothing but
blanks, and an expression in a payload. -/
theorem messages_perform_load_minify_blanks :
    let source := "<templates><template id=\"a\">\n <p label=\" Hi \">\n one\n two <br/> </p>" ++
      "</template><template extend=\"a\"><patch path=\"p\" action=\"insertInside\">" ++
      " \x7b\x7b x \x7d\x7d <b> three</b></patch></template></templates>"
    let listed : List Message :=
      [⟨"template:a:p:label", "Hi"⟩, ⟨"template:a", "one two"⟩, ⟨"template:a", "three"⟩]
    ∃ (off on : Workspace) (handles : Noted (List Handle)) (offSession onSession : Session),
      (start { minify := false }).perform 0 (.load memorySource source) =
        (off, ⟨.handles handles.value, handles.notices⟩) ∧
      (start { minify := true }).perform 0 (.load memorySource source) =
        (on, ⟨.handles handles.value, handles.notices⟩) ∧
      off.sessions[0]? = some offSession ∧ on.sessions[0]? = some onSession ∧
      off.messages offSession = .ok listed ∧ on.messages onSession = .ok listed := by
  intro source listed
  obtain ⟨cs, tree, elements, ts, s, receipts, hcs, htree, helements, hts, hreg, hlisted⟩ :
      ∃ cs tree elements ts s receipts,
        source.toList = cs ∧ Markup.readTree false cs = .ok tree ∧
        Declaration.declarations tree = .ok elements ∧
        Declaration.collect (elements.map (Declaration.template memorySource)) = .ok ts ∧
        Store.empty.registerAll ts = .ok (s, receipts) ∧
        (MessageRule.ofSettings { minify := false }).toOption.map s.messages = some listed := by
    refine ⟨?cs, ?tree, ?elements, ?ts, ?s, ?receipts, ?hcs, ?htree, ?helements, ?hts, ?hreg,
      ?hlisted⟩
    case hcs =>
      simp only [source]
      rw [String.toList_append, String.toList_append, String.toList_ofList, String.toList_ofList,
        String.toList_ofList]
    case htree => cbv; rfl
    case helements => cbv; rfl
    case hts => cbv; rfl
    case hreg => cbv; rfl
    case hlisted => decide +kernel
  obtain ⟨noted, hload⟩ := Store.load_of_declarations hcs htree helements hts hreg
  have hoff : (start { minify := false }).perform 0 (.load memorySource source) =
      (loaded { minify := false } s, ⟨.handles noted.value, noted.notices⟩) :=
    perform_start_of_load hload
  obtain ⟨on, hon, offSession, onSession, hoffSession, honSession, hsame, -⟩ :=
    messages_perform_load_minify {} memorySource source hoff
  have hmessages : (loaded { minify := false } s).messages offSession = .ok listed := by
    rw [messages_loaded hoffSession]
    cases hrule : MessageRule.ofSettings { minify := false } with
    | error e => rw [hrule] at hlisted; cases hlisted
    | ok r =>
        rw [hrule] at hlisted
        exact congrArg Except.ok (Option.some.inj hlisted)
  exact ⟨_, on, _, offSession, onSession, hoff, hon, hoffSession, honSession, hmessages,
    hsame.trans hmessages⟩

end Workspace

end MarkupTemplates
