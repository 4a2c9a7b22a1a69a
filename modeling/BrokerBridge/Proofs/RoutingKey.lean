import BrokerBridge.Proofs.Exchanges
import BrokerBridge.Proofs.RoundTrip

/-!
# The routing key agrees with the body

A transformed message is published under a key that was chosen from the body that came in, and its
receiver has only the body that went out.  Here the key is read off the second one.

* `ReadsAs`: a text is one document, and holds these members; `ReadsAs.typeHint_eq_some_iff` says
  which value in the document is the type.
* `exists_readsAs_of_transform`: what a transformation publishes reads as members with the type hint
  of the body that came in, whether it is the body as it was or written anew.
* **`Router.key_agrees_with_body`**: a forward of a transformed message publishes once, to the
  exchange of its rule.  To LEGA the key is the queue of LEGA.  To CEGA it is the text that the
  published body has as its last `type`, and the default of the rule where that is no text.
-/
namespace BrokerBridge

open Json (Value Members Tree Document)
open scoped Json

variable {σ : Type}

/-! ## 1. Members of a text -/

/-- A text is this document and no other, which holds these members. -/
structure ReadsAs (text : Bytes) (doc : Document) (members : Members) : Prop where
  eq_iff : ∀ doc' : Document, doc'.bytes = text ↔ doc' = doc
  holds : doc.tree.Holds members

section

variable {members : List (Option String × Tree)} {name : String} {t t' : Tree}

/-- The last member with a name is the first from behind. -/
theorem LastMember.find?_reverse (h : LastMember members name t) :
    members.reverse.find? (fun m => m.1 = some name) = some (some name, t) := by
  obtain ⟨before, after, rfl, hafter⟩ := h
  have hnone : after.reverse.find? (fun m => decide (m.1 = some name)) = none := by
    rw [List.find?_eq_none]
    intro m hm
    rw [decide_eq_true_iff]
    exact hafter m (List.mem_reverse.mp hm)
  rw [List.reverse_append, List.reverse_cons, List.find?_append, List.find?_append, hnone]
  simp only [List.find?_cons, decide_true, Option.none_or, Option.some_or]

theorem LastMember.unique (h : LastMember members name t) (h' : LastMember members name t') :
    t = t' := by
  have heq := h.find?_reverse.symm.trans h'.find?_reverse
  exact (Prod.mk.inj (Option.some.inj heq)).2

end

section

variable {text : Bytes} {doc : Document} {members : Members}

theorem ReadsAs.of_bytes (hbytes : doc.bytes = text) (h : doc.tree.Holds members) :
    ReadsAs text doc members where
  eq_iff doc' := by
    rw [← hbytes]
    exact ⟨Document.eq_of_bytes, fun heq => heq ▸ rfl⟩
  holds := h

/-- A text is read as the members that it holds, where it opens few enough containers. -/
theorem ReadsAs.decode_iff (h : ReadsAs text doc members) (read : Members) :
    Members.decode text = .ok read ↔ read = members ∧ doc.tree.depth ≤ Json.depthLimit := by
  have hbytes : doc.bytes = text := (h.eq_iff doc).mpr rfl
  have decode_of_depth (hdepth : doc.tree.depth ≤ Json.depthLimit) :
      Members.decode text = .ok members :=
    Members.decode_eq_ok_iff.mpr ⟨doc, hbytes, hdepth, h.holds⟩
  constructor
  · intro hread
    obtain ⟨doc', hbytes', hdepth, -⟩ := Members.decode_eq_ok_iff.mp hread
    rw [(h.eq_iff doc').mp hbytes'] at hdepth
    exact ⟨Except.ok.inj (hread.symm.trans (decode_of_depth hdepth)), hdepth⟩
  · rintro ⟨rfl, hdepth⟩
    exact decode_of_depth hdepth

/-- **The type hint is the text of the last `type`.** -/
theorem ReadsAs.typeHint_eq_some_iff (h : ReadsAs text doc members) {s : String} :
    Members.typeHint members = some s ↔
      ∃ t, LastMember doc.tree.members "type" t ∧ t.Denotes (.text s) := by
  rw [Members.typeHint]
  obtain ⟨hnone, hne⟩ | ⟨u, v, hget, hlast, hv⟩ := h.holds.get?_cases "type"
  · rw [hnone, Option.bind_none]
    refine iff_of_false (Option.some_ne_none s).symm ?_
    rintro ⟨t, ⟨before, after, hmembers, -⟩, -⟩
    exact hne (some "type", t) (hmembers ▸ List.mem_append_right _ List.mem_cons_self) rfl
  · rw [hget, Option.bind_some]
    constructor
    · intro htext
      refine ⟨u, hlast, ?_⟩
      cases v with
      | text s' => rwa [← Option.some.inj htext]
      | null | boolean | number | array | object => cases htext
    · rintro ⟨t, hlast', ht⟩
      obtain rfl := hlast.unique hlast'
      rw [hv.unique ht]
      rfl

end

/-- No text is wrapped below the top level. -/
def NoWrappedText (text : Bytes) : Prop :=
  ∀ doc : Document, doc.bytes = text → ∀ t ∈ doc.tree.parts, t.wrapper? ≠ some .text

/-- **What is published says under `type` what was consumed.** -/
theorem exists_readsAs_of_transform {resolver : Resolver} {direction : Direction} {d : Delivery}
    {out : Transformed} (hok : transform resolver direction d = .ok out) :
    ∃ doc members, ReadsAs out.publishing.body doc members ∧
      Members.typeHint members = out.messageType ∧
      (out.replaced = none ∨ NoWrappedText d.body → doc.tree.depth ≤ Json.depthLimit) := by
  obtain ⟨members, hread⟩ := exists_decode_of_transform hok
  obtain ⟨doc, hbytes, hdepth, hholds⟩ := Members.decode_eq_ok_iff.mp hread
  cases huser : Assoc.get? "user" members with
  | none =>
    -- the body is passed on as it is
    rw [transform_of_no_user hread huser] at hok
    obtain rfl := Except.ok.inj hok
    exact ⟨doc, members, .of_bytes hbytes hholds, rfl, fun _ => hdepth⟩
  | some user =>
    obtain ⟨translated, -, rfl⟩ := eq_withUser_of_transform hread huser hok
    have hregular := hholds.regular.put (.text translated) "user"
    refine ⟨_, _, .of_bytes hregular.bytes_document hregular.holds_document,
      typeHint_put_user _ _, fun hfree => ?_⟩
    have hfree' : NoWrappedText d.body := hfree.resolve_left nofun
    exact Json.depth_document_put_le "user" translated
      (Nat.le_trans (hholds.depth_le (hfree' doc hbytes)) hdepth)

/-! ## 2. Publications of a forward -/

/-- A forward of a transformed message publishes the message and nothing else. -/
theorem Course.publications {r : Router} {rule : RoutingRule} {d : Delivery}
    {calls : List (Call × Response)} {result : ForwardResult} {t : Transformed}
    (h : Course r rule d calls result) (ht : transform r.resolver rule.direction d = .ok t) :
    ∃ response, calls.filter (fun c => !c.1.operation.settles) =
      [(r.forwardCall rule t, response)] := by
  cases h with
  | acked ht' | ackFailed ht' | requeued ht' | requeueFailed ht' =>
    obtain rfl := Except.ok.inj (ht.symm.trans ht')
    exact ⟨_, rfl⟩
  | nackFailed hf | rejected hf | reportFailed hf => cases ht.symm.trans hf

/-- A key is the text of the last `type` in a document, or the default where that is no text. -/
def KeyOf (doc : Document) (default key : String) : Prop :=
  (∃ t, LastMember doc.tree.members "type" t ∧ t.Denotes (.text key)) ∨
    (∀ t s, LastMember doc.tree.members "type" t → ¬t.Denotes (.text s)) ∧ key = default

theorem ReadsAs.keyOf {text : Bytes} {doc : Document} {members : Members}
    (h : ReadsAs text doc members) (default : String) :
    KeyOf doc default ((Members.typeHint members).getD default) := by
  cases hhint : Members.typeHint members with
  | none =>
    refine Or.inr ⟨fun t s hlast ht => ?_, rfl⟩
    cases hhint.symm.trans (h.typeHint_eq_some_iff.mpr ⟨t, hlast, ht⟩)
  | some key => exact Or.inl (h.typeHint_eq_some_iff.mp hhint)

/-- **The routing key agrees with the body that the receiver gets.**  Whatever the channels answer,
a message that was transformed is published once, on the other side and to the exchange of the rule.

* To LEGA its key is the queue of LEGA, whatever the message says.
* To CEGA its body is one document, in which the key is the text of the last `type`, or else the
  default of the rule.  Read again, the body has the members that the key is the type hint of; and it
  is read again unless a wrapped text, written out of its string, opens too many containers. -/
theorem Router.key_agrees_with_body {resolver : Resolver} {rule : RoutingRule} {d : Delivery}
    {t : Transformed} (ht : transform resolver rule.direction d = .ok t) (s : Settings)
    (perform : σ → Call → Response × σ) (channels : σ) :
    let o := ((Router.ofSettings resolver s).forward rule d).run perform channels
    ∃ key response,
      o.calls.filter (fun c => !c.1.operation.settles) =
        [(⟨rule.direction.destination,
            .publish ⟨rule.exchange, key, false, false, t.publishing⟩⟩, response)] ∧
      (rule.direction = .cegaToLega → key = s.lega.queue) ∧
      (rule.direction = .legaToCega →
        ∃ doc members, ReadsAs t.publishing.body doc members ∧
          KeyOf doc rule.defaultRoutingKey key ∧
          key = (Members.typeHint members).getD rule.defaultRoutingKey ∧
          (∀ read, Members.decode t.publishing.body = .ok read ↔
            read = members ∧ doc.tree.depth ≤ Json.depthLimit) ∧
          (t.replaced = none ∨ NoWrappedText d.body → doc.tree.depth ≤ Json.depthLimit)) := by
  intro o
  have hcourse : Course (Router.ofSettings resolver s) rule d o.calls o.result :=
    Router.forward_course _ _ _ _ _
  obtain ⟨response, hcalls⟩ := hcourse.publications ht
  refine ⟨(Router.ofSettings resolver s).routingKey rule t, response, hcalls, fun hdir => ?_,
    fun hdir => ?_⟩
  · simp only [Router.routingKey, hdir]
    rfl
  · obtain ⟨doc, members, hreads, hhint, hdepth⟩ := exists_readsAs_of_transform ht
    have hkey : (Router.ofSettings resolver s).routingKey rule t =
        (Members.typeHint members).getD rule.defaultRoutingKey := by
      simp only [Router.routingKey, hdir, hhint]
    exact ⟨doc, members, hreads, hkey ▸ hreads.keyOf _, hkey, hreads.decode_iff, hdepth⟩

/-- The text `{"type":"x","\u0074ype":"","user":"b"}`. -/
def twoTypes : Document where
  before := []
  tree :=
    .object (.ofName "type") [] (.quoted (Json.quotedPieces "x")) []
      (.cons ⟨[], .unit (.decimal 0) (.decimal 0) (.decimal 7) (.decimal 4) ::
          Json.quotedPieces "ype", []⟩ [] (.quoted []) []
        (.cons (.ofName "user") [] (.quoted (Json.quotedPieces "b")) [] .nil))
  after := []

/-- What it holds. -/
def twoTypesMembers : Members := [("type", .text ""), ("user", .text "b")]

set_option maxRecDepth 20000 in
theorem decode_twoTypes : Members.decode twoTypes.bytes = .ok twoTypesMembers := rfl

/-- The store in which its user is another one at CEGA. -/
def knownAtCega : Resolver := .ofMapping (.ofPairs [("a", "b")])

/-- What becomes of it. -/
def twoTypesTranslated : Transformed :=
  .withUser .legaToCega (.ofBody twoTypes.bytes) twoTypesMembers "b" "a"

set_option maxRecDepth 20000 in
theorem decode_twoTypesTranslated :
    Members.decode twoTypesTranslated.publishing.body =
      .ok [("type", .text ""), ("user", .text "a")] := rfl

/-- The last of its types is empty, and so is its key. -/
theorem Router.empty_key_of_twoTypes :
    transform knownAtCega verifiedRule.direction (.ofBody twoTypes.bytes) =
      .ok twoTypesTranslated ∧
    ∃ response doc,
      (((Router.ofSettings knownAtCega oneExchange).forward verifiedRule
        (.ofBody twoTypes.bytes)).run failFirst 0).calls.filter
          (fun c => !c.1.operation.settles) =
        [(⟨.cegaPublish, .publish ⟨"bridge", "", false, false, twoTypesTranslated.publishing⟩⟩,
          response)] ∧
      (∀ doc', doc'.bytes = twoTypesTranslated.publishing.body ↔ doc' = doc) ∧
      KeyOf doc "files.verified" "" := by
  have hget : Assoc.get? "user" twoTypesMembers = some (.text "b") := rfl
  have ht : transform knownAtCega verifiedRule.direction (.ofBody twoTypes.bytes) =
      .ok twoTypesTranslated :=
    transform_of_user (d := .ofBody twoTypes.bytes) decode_twoTypes hget
  obtain ⟨key, response, hcalls, -, hcega⟩ :=
    Router.key_agrees_with_body ht oneExchange failFirst 0
  obtain ⟨doc, members, hreads, hkeyOf, hkey, hdecode, -⟩ := hcega rfl
  obtain ⟨rfl, -⟩ := (hdecode _).mp decode_twoTypesTranslated
  obtain rfl : key = "" := hkey
  exact ⟨ht, response, doc, hcalls, hreads.eq_iff, hkeyOf⟩

end BrokerBridge
