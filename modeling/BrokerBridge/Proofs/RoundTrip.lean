import BrokerBridge.Proofs.Substitution

/-!
# Across the bridge and back

A message that crosses the bridge is delivered on the other side, and may be sent back.  Here a
`Publishing` is followed from crossing to crossing: `Crosses` says what becomes of it however it is
delivered.

* `crosses_of_lookup`: one crossing puts the other id in the place of the user and leaves the rest.
* **`there_and_back`**: where the mapping leads from an id to another one and from that back to the
  first, a message comes back as its members were written, with its own user; from then on every
  crossing gives the bytes of the one before the last.

What does not always come back is a message with a wrapped text in it: written out of its string,
the text may open more containers than may be open (`Substitution`), and then the other side refuses
the message.  So the way back asks that its members, once written, open few enough, and they do where
no text is wrapped below the top level.
-/
namespace BrokerBridge

open Json (Value Members Document)
open scoped Json

/-! ## 1. One crossing -/

/-- The direction back. -/
def Direction.opposite : Direction → Direction
  | .cegaToLega => .legaToCega
  | .legaToCega => .cegaToLega

/-- A delivery that brings a published message: its properties and its body.  Where it was
published, and how often it was delivered, is as in `d`. -/
def Delivery.bringing (d : Delivery) (p : Publishing) : Delivery :=
  { d with properties := p.properties, body := p.body }

/-- However it is delivered, a message crosses as `q`, with the type hint `hint`. -/
def Crosses (resolver : Resolver) (direction : Direction) (p q : Publishing)
    (hint : Option String) : Prop :=
  ∀ d : Delivery, ∃ t, transform resolver direction (d.bringing p) = .ok t ∧
    t.publishing = q ∧ t.messageType = hint

/-- **A message whose user is found crosses** with the other id in the place of the user. -/
theorem crosses_of_lookup {resolver : Resolver} {direction : Direction} {p : Publishing}
    {members : Members} {u x : String} (hread : Members.decode p.body = .ok members)
    (huser : Assoc.get? "user" members = some (.text u))
    (hx : resolver.lookup direction u = .ok (some x)) :
    Crosses resolver direction p
      ⟨p.properties, Members.encode (Assoc.put "user" (.text x) members)⟩
      (Members.typeHint members) := by
  intro d
  refine ⟨.withUser direction (d.bringing p) members u x, ?_, rfl, rfl⟩
  have hid : Value.idText (.text u) = u := rfl
  rw [transform_of_user (d := d.bringing p) hread huser, hid, hx]
  rfl

/-! ## 2. Members with another user -/

section

variable {members : Members} {u : String}

theorem typeHint_put_user (v : Value) (members : Members) :
    Members.typeHint (Assoc.put "user" v members) = Members.typeHint members := by
  rw [Members.typeHint, Members.typeHint, Assoc.get?_put_of_ne (by decide)]

/-- Putting the user back gives the members that were there. -/
theorem put_user_back (huser : Assoc.get? "user" members = some (.text u)) (x : String) :
    Assoc.put "user" (.text u) (Assoc.put "user" (.text x) members) = members := by
  rw [Assoc.put_put, Assoc.put_eq_self huser]

/-- Members that a reading gives are read again once they are written, where they open few enough
containers. -/
theorem Json.Members.Regular.decode_encode (h : members.Regular)
    (hdepth : members.document.tree.depth ≤ Json.depthLimit) :
    Members.decode members.encode = .ok members :=
  (h.isWritten.decode_iff members).mpr ⟨rfl, hdepth⟩

/-- Written members are a message exactly when they open few enough containers. -/
theorem Json.Members.Regular.isMessage_encode_iff (h : members.Regular) :
    IsMessage members.encode ↔ members.document.tree.depth ≤ Json.depthLimit := by
  rw [isMessage_iff]
  constructor
  · rintro ⟨read, hread⟩
    exact ((h.isWritten.decode_iff read).mp hread).2
  · intro hdepth
    exact ⟨members, h.decode_encode hdepth⟩

/-- One id for another makes members neither deeper nor less deep. -/
theorem depth_put_user_le_iff (huser : Assoc.get? "user" members = some (.text u)) (x : String) :
    (Members.document (Assoc.put "user" (.text x) members)).tree.depth ≤ Json.depthLimit ↔
      members.document.tree.depth ≤ Json.depthLimit := by
  constructor
  · intro h
    rw [← put_user_back huser x]
    exact Json.depth_document_put_le "user" u h
  · exact Json.depth_document_put_le "user" x

end

/-! ## 3. There and back -/

/-- **A message goes across and comes back.**  The mapping leads from the user of the message to
another id, and from that back to the user.  Then, in either direction:

* the message crosses, with that id in the place of the user, its own properties and type hint;
* what went across is a message again exactly when the members of the first, once written, open few
  enough containers, and so it is where no text is wrapped in it below the top level;
* then it comes back as those members were written, with its own properties and type hint, and what
  came back goes across as before, byte for byte. -/
theorem there_and_back {pairs : List (String × String)} {direction : Direction} {p : Publishing}
    {members : Members} {u x : String} (hread : Members.decode p.body = .ok members)
    (huser : Assoc.get? "user" members = some (.text u))
    (hx : (Mapping.ofPairs pairs).find? direction u = some x)
    (hu : (Mapping.ofPairs pairs).find? direction.opposite x = some u) :
    let resolver := Resolver.ofMapping (.ofPairs pairs)
    let hint := Members.typeHint members
    let across : Publishing :=
      ⟨p.properties, Members.encode (Assoc.replace "user" (.text x) members)⟩
    let back : Publishing := ⟨p.properties, members.encode⟩
    Crosses resolver direction p across hint ∧
    (IsMessage across.body ↔ members.document.tree.depth ≤ Json.depthLimit) ∧
    ((∀ doc : Document, doc.bytes = p.body → ∀ t ∈ doc.tree.parts, t.wrapper? ≠ some .text) →
      IsMessage across.body) ∧
    (IsMessage across.body →
      Crosses resolver direction.opposite across back hint ∧
      Crosses resolver direction back across hint) := by
  intro resolver hint across back
  obtain ⟨doc, hbytes, hlimit, hholds⟩ := Members.decode_eq_ok_iff.mp hread
  have hregular : members.Regular := hholds.regular
  have hacross : across =
      ⟨p.properties, Members.encode (Assoc.put "user" (.text x) members)⟩ := by
    rw [Assoc.put_of_mem hregular.keys_nodup (mem_keys_of_get? huser)]
  have hthere : resolver.lookup direction u = .ok (some x) := congrArg Except.ok hx
  have hhome : resolver.lookup direction.opposite x = .ok (some u) := congrArg Except.ok hu
  have hput : Members.Regular (Assoc.put "user" (.text x) members) :=
    hregular.put (.text x) "user"
  have hmessage : IsMessage across.body ↔ members.document.tree.depth ≤ Json.depthLimit := by
    rw [hacross, ← depth_put_user_le_iff huser x]
    exact hput.isMessage_encode_iff
  refine ⟨hacross ▸ crosses_of_lookup hread huser hthere, hmessage, fun hfree => ?_, fun h => ?_⟩
  · exact hmessage.mpr (Nat.le_trans (hholds.depth_le (hfree doc hbytes)) hlimit)
  have hdepth := hmessage.mp h
  have hreadAcross := hput.decode_encode ((depth_put_user_le_iff huser x).mpr hdepth)
  have hreadBack := hregular.decode_encode hdepth
  rw [hacross]
  constructor
  · -- the way back: the id that was put in is replaced by the user that was there
    have hback := crosses_of_lookup (p := ⟨p.properties, _⟩) hreadAcross
      (Assoc.get?_put_self "user" (.text x) members) hhome
    rwa [put_user_back huser, typeHint_put_user] at hback
  · exact crosses_of_lookup (p := back) hreadBack huser hthere

/-- A message with two users, and a content type. -/
def twoUsersSent : Publishing := ⟨{ contentType := some "application/json" }, twoUsers.bytes⟩

/-- It goes across under the id that its last user got last, and comes back. -/
theorem twoUsers_there_and_back :
    let pairs := [("b", "x"), ("b", "c"), ("a", "d")]
    let resolver := Resolver.ofMapping (.ofPairs pairs)
    let across : Publishing :=
      ⟨twoUsersSent.properties, Members.encode (Assoc.replace "user" (.text "c") twoUsersMembers)⟩
    let back : Publishing := ⟨twoUsersSent.properties, Members.encode twoUsersMembers⟩
    Members.decode twoUsersSent.body = .ok twoUsersMembers ∧
    Assoc.get? "user" twoUsersMembers = some (.text "b") ∧
    (Mapping.ofPairs pairs).find? .cegaToLega "b" = some "c" ∧
    (Mapping.ofPairs pairs).find? .legaToCega "c" = some "b" ∧
    Crosses resolver .cegaToLega twoUsersSent across none ∧
    Crosses resolver .legaToCega across back none ∧
    Crosses resolver .cegaToLega back across none := by
  intro pairs resolver across back
  have huser : Assoc.get? "user" twoUsersMembers = some (.text "b") := rfl
  have hx : (Mapping.ofPairs pairs).find? .cegaToLega "b" = some "c" := rfl
  have hu : (Mapping.ofPairs pairs).find? .legaToCega "c" = some "b" := rfl
  obtain ⟨hacross, hmessage, -, hback⟩ :=
    there_and_back (p := twoUsersSent) decode_twoUsers huser hx hu
  have hdepth : twoUsersMembers.document.tree.depth = 3 := rfl
  obtain ⟨hhome, hagain⟩ := hback (hmessage.mpr (hdepth ▸ by decide))
  exact ⟨decode_twoUsers, huser, hx, hu, hacross, hhome, hagain⟩

end BrokerBridge
