import BrokerBridge.Proofs.Substitution
import BrokerBridge.Routing.ErrorRecord

/-!
# Error records

An error record is an object of two strings, so whatever the texts are it is read again as those
texts, and no transformation refuses it or looks anything up for it.

* **`ErrorRecord.faithful`**: what a record says, what it carries of the delivery, and what becomes
  of it when it is delivered in its turn.
-/
namespace BrokerBridge

open Json (Value Members Document PlainReading)

/-! ## 1. Reasons -/

theorem append_ne_empty {s : String} (h : s ≠ "") (t : String) : s ++ t ≠ "" :=
  fun heq => h (String.append_eq_empty_iff.mp heq).1

theorem ResolveError.message_ne_empty (e : ResolveError) : e.message ≠ "" := by
  cases e with
  | notFound id => exact append_ne_empty (append_ne_empty (by decide) id) "'"
  | store failure => exact append_ne_empty (by decide) failure.message

/-- Every failed transformation has a reason. -/
theorem TransformError.message_ne_empty (e : TransformError) : e.message ≠ "" := by
  cases e with
  | malformed e => exact append_ne_empty (by decide) e.message
  | identity e => exact e.message_ne_empty
  | encode e => exact append_ne_empty (by decide) e.message

namespace ErrorRecord

/-! ## 2. The body -/

theorem regular_members (r : ErrorRecord) : r.members.Regular where
  keys_nodup := show ["reason", "original_message"].Nodup by decide
  values := List.forall_mem_cons.mpr ⟨.text _, List.forall_mem_singleton.mpr (.text _)⟩

/-- A record is read as its members. -/
theorem decode_encode (r : ErrorRecord) : Members.decode r.members.encode = .ok r.members := by
  have hdepth : r.members.document.tree.depth = 1 := rfl
  exact (r.regular_members.isWritten.decode_iff r.members).mpr ⟨rfl, hdepth ▸ by decide⟩

/-- A record names no user and has no type, so it is passed on as it is. -/
theorem transform_of_body_eq {r : ErrorRecord} {d : Delivery} (h : d.body = r.members.encode)
    (resolver : Resolver) (direction : Direction) :
    transform resolver direction d = .ok ⟨.forward d d.body, none, none⟩ :=
  transform_of_no_user (h ▸ r.decode_encode) rfl

/-- **A record says what it was made of, and makes no further record.** -/
theorem faithful (r : ErrorRecord) (d : Delivery) :
    Members.decode (r.publishing d).body =
      .ok [("reason", .text r.reason), ("original_message", .text r.bodyText)] ∧
    (∀ read, PlainReading (r.publishing d).body read ↔
      read = [("reason", .text r.reason), ("original_message", .text r.bodyText)]) ∧
    (r.publishing d).properties =
      { contentType := d.properties.contentType
        contentEncoding := d.properties.contentEncoding
        correlationId := d.properties.correlationId } ∧
    (∀ e : TransformError, (ofFailure d e).reason ≠ "") ∧
    (∀ (e : TransformError) (s : String),
      Utf8.ofString (ofFailure { d with body := Utf8.ofString s } e).bodyText = Utf8.ofString s) ∧
    ∀ (resolver : Resolver) (direction : Direction) (d' : Delivery),
      transform resolver direction { d' with body := (r.publishing d).body } =
        .ok ⟨⟨d'.properties, (r.publishing d).body⟩, none, none⟩ := by
  refine ⟨r.decode_encode, ?_, rfl, ?_, ?_, ?_⟩
  · intro read
    exact r.regular_members.plainReading.iff_eq
  · intro e
    exact e.message_ne_empty
  · intro e s
    exact Utf8.ofString_lossy (Utf8.decode?_encode s.toList)
  · intro resolver direction d'
    exact transform_of_body_eq rfl resolver direction

end ErrorRecord

end BrokerBridge
