import BrokerBridge.Proofs.Json.Places
import BrokerBridge.Proofs.Json.Plain
import BrokerBridge.Proofs.Json.Unambiguous
import BrokerBridge.Proofs.Transformation

/-!
# What a transformation changes in a body

A message with a user is read, its user is replaced, and it is written anew.  The statements here
compare the two texts, not the values that the program holds in between.

* **`transform_changes_only_user`** compares them by the plain reading.  It asks that no object
  below the top level has a wrapper's key in front: such an object is read as what is in its
  string, and written as that.
* **`transform_round_trip`** compares them by the reading of this library.  What is written is read
  again as the same members, unless a wrapped text in the input was deep enough to open, outside of
  its string, more containers than may be open.
* **`transform_keeps_numbers`** compares them number by number.  Each keeps its place, its sign and
  all of its digits; an exponent is written with a small letter and with a sign, however it was
  read.
-/
namespace BrokerBridge

open Json (Value Members Tree Document PlainReading)
open scoped Json

section

variable {resolver : Resolver} {direction : Direction} {d : Delivery} {out : Transformed}
  {members : Members} {user : Value}

theorem eq_withUser_of_transform (h : Members.decode d.body = .ok members)
    (huser : Assoc.get? "user" members = some user)
    (hok : transform resolver direction d = .ok out) :
    ∃ resolved, resolver.resolve direction user.idText = .ok resolved ∧
      out = .withUser direction d members user.idText resolved := by
  rw [transform_of_user h huser, outcome_eq_ok_iff] at hok
  obtain ⟨resolved, hanswer, rfl⟩ := hok
  exact ⟨resolved, by rw [Resolver.resolve, hanswer], rfl⟩

/-- A delivery that is transformed has a body that is read. -/
theorem exists_decode_of_transform (hok : transform resolver direction d = .ok out) :
    ∃ members, Members.decode d.body = .ok members := by
  cases h : Members.decode d.body with
  | error e =>
    rw [transform_of_decode_error h] at hok
    cases hok
  | ok members => exact ⟨members, rfl⟩

end

/-- The documents of a text that is read hold what it is read as. -/
theorem holds_of_decode {members : Members} {doc : Document}
    (h : Members.decode doc.bytes = .ok members) : doc.tree.Holds members := by
  obtain ⟨doc', hbytes, -, hholds⟩ := Members.decode_eq_ok_iff.mp h
  rwa [← Document.eq_of_bytes hbytes]

/-- Where a message names a user, the user has a key among its members. -/
theorem mem_keys_of_get? {members : Members} {user : Value} {key : String}
    (h : Assoc.get? key members = some user) : key ∈ Assoc.keys members := by
  by_contra hno
  cases h.symm.trans (Assoc.get?_eq_none_iff.mpr hno)

/-! ## 1. By the plain reading -/

theorem Json.PlainReading.iff_eq {text : Bytes} {members members' : List (String × Json.Plain)}
    (h : PlainReading text members) : PlainReading text members' ↔ members' = members :=
  ⟨fun h' => h'.unique h, fun heq => heq ▸ h⟩

/-- Two texts are objects that say the same, but for a string under a key in the second. -/
def DiffersOnlyIn (key s : String) (text text' : Bytes) : Prop :=
  ∃ members, (∀ read, PlainReading text read ↔ read = members) ∧
    ∀ read, PlainReading text' read ↔ read = Assoc.replace key (.text s) members

/-- **Only the user changes.** -/
theorem transform_changes_only_user {resolver : Resolver} {direction : Direction} {d : Delivery}
    {out : Transformed} {doc : Document} (hdoc : doc.bytes = d.body)
    (hplain : ∀ t ∈ doc.tree.parts, t.wrapper? = none)
    (huser : ∃ m ∈ doc.tree.members, m.1 = some "user")
    (hok : transform resolver direction d = .ok out) :
    ∃ id translated, resolver.resolve direction id = .ok translated ∧
      out.replaced = some ⟨direction, id, translated⟩ ∧
      DiffersOnlyIn "user" translated d.body out.publishing.body := by
  obtain ⟨members, hread⟩ := exists_decode_of_transform hok
  have hholds : doc.tree.Holds members := holds_of_decode (hdoc ▸ hread)
  obtain ⟨user, hget⟩ : ∃ user, Assoc.get? "user" members = some user := by
    obtain ⟨m, hm, hname⟩ := huser
    obtain ⟨-, hne⟩ | ⟨_, user, hget, -⟩ := hholds.get?_cases "user"
    · exact absurd hname (hne m hm)
    · exact ⟨user, hget⟩
  obtain ⟨translated, hresolve, rfl⟩ := eq_withUser_of_transform hread hget hok
  have hregular := hholds.regular
  have hnodup : (Assoc.keys (Assoc.mapValues Value.plain members)).Nodup := by
    rw [Assoc.keys_mapValues]
    exact hregular.keys_nodup
  have hmem : "user" ∈ Assoc.keys (Assoc.mapValues Value.plain members) := by
    rw [Assoc.keys_mapValues]
    exact mem_keys_of_get? hget
  -- the plain reading of the input and that of the output are the values that were read and written
  have hin : PlainReading d.body (Assoc.mapValues Value.plain members) :=
    ⟨doc, hdoc, hholds.plain?_eq hplain⟩
  have hout := (hregular.put (.text translated) "user").plainReading
  rw [Assoc.mapValues_put, Assoc.put_of_mem hnodup hmem] at hout
  exact ⟨user.idText, translated, hresolve, rfl, _, fun _ => hin.iff_eq, fun _ => hout.iff_eq⟩

/-- The text `{"user":"a","n":[1.50,{"\u0061":null}],"user":"b"}`. -/
def twoUsers : Document where
  before := []
  tree :=
    .object (.ofName "user") [] (.quoted (Json.quotedPieces "a")) []
      (.cons (.ofName "n") []
        (.array [] (.numeral ⟨false, .ofList [1], some (5, [0]), none⟩) []
          (.cons []
            (.object ⟨[], [.unit (.decimal 0) (.decimal 0) (.decimal 6) (.decimal 1)], []⟩ []
              .null [] .nil) [] .nil)) []
        (.cons (.ofName "user") [] (.quoted (Json.quotedPieces "b")) [] .nil))
  after := []

/-- What it holds. -/
def twoUsersMembers : Members :=
  [("user", .text "b"), ("n", .array [.number ⟨false, [1], [5, 0], none⟩, .object [("a", .null)]])]

set_option maxRecDepth 20000 in
theorem decode_twoUsers : Members.decode twoUsers.bytes = .ok twoUsersMembers := rfl

/-- The store that knows the last of its users. -/
def secondUserKnown : Resolver := .ofMapping (.ofPairs [("b", "c")])

/-- What becomes of it. -/
def twoUsersTranslated : Transformed :=
  .withUser .cegaToLega (.ofBody twoUsers.bytes) twoUsersMembers "b" "c"

theorem transform_twoUsers :
    transform secondUserKnown .cegaToLega (.ofBody twoUsers.bytes) = .ok twoUsersTranslated :=
  have huser : Assoc.get? "user" twoUsersMembers = some (.text "b") := rfl
  transform_of_user (d := .ofBody twoUsers.bytes) decode_twoUsers huser

theorem twoUsers_differs_in_user :
    (∀ t ∈ twoUsers.tree.parts, t.wrapper? = none) ∧
    (∃ m ∈ twoUsers.tree.members, m.1 = some "user") ∧
    ∃ id translated, secondUserKnown.resolve .cegaToLega id = .ok translated ∧
      twoUsersTranslated.replaced = some ⟨.cegaToLega, id, translated⟩ ∧
      DiffersOnlyIn "user" translated twoUsers.bytes twoUsersTranslated.publishing.body := by
  have hplain : ∀ t ∈ twoUsers.tree.parts, t.wrapper? = none := by decide
  have huser : ∃ m ∈ twoUsers.tree.members, m.1 = some "user" := ⟨_, List.mem_cons_self, rfl⟩
  exact ⟨hplain, huser, transform_changes_only_user rfl hplain huser transform_twoUsers⟩

/-! ## 2. By the reading of this library -/

/-- A text is written, as members and from one tree: without white space, without an object that
has two members with one name, and so that the members are what it is read as, where it opens few
enough containers to be read at all. -/
structure IsWritten (text : Bytes) (members : Members) (tree : Tree) : Prop where
  encode_eq : members.encode = text
  eq_iff : ∀ doc : Document, doc.bytes = text ↔ doc = ⟨[], tree, []⟩
  compact : tree.Compact
  namesDistinct : tree.NamesDistinct
  decode_iff : ∀ read, Members.decode text = .ok read ↔
    read = members ∧ tree.depth ≤ Json.depthLimit

/-- Members that a reading gives are written so. -/
theorem Json.Members.Regular.isWritten {members : Members} (h : members.Regular) :
    IsWritten members.encode members members.document.tree := by
  have heq (doc : Document) : doc.bytes = members.encode ↔ doc = members.document := by
    rw [← h.bytes_document]
    exact ⟨Document.eq_of_bytes, fun heq => heq ▸ rfl⟩
  have decode_of_depth (hdepth : members.document.tree.depth ≤ Json.depthLimit) :
      Members.decode members.encode = .ok members :=
    Members.decode_eq_ok_iff.mpr ⟨members.document, h.bytes_document, hdepth, h.holds_document⟩
  refine ⟨rfl, heq, h.compact_document, h.namesDistinct_document, fun read => ?_⟩
  constructor
  · intro hread
    obtain ⟨doc, hbytes, hdepth, -⟩ := Members.decode_eq_ok_iff.mp hread
    rw [(heq doc).mp hbytes] at hdepth
    exact ⟨Except.ok.inj (hread.symm.trans (decode_of_depth hdepth)), hdepth⟩
  · rintro ⟨rfl, hdepth⟩
    exact decode_of_depth hdepth

/-- **What is written is read again, with the user replaced**, where it opens few enough containers.
It does where no text is wrapped in the body below the top level. -/
theorem transform_round_trip {resolver : Resolver} {direction : Direction} {d : Delivery}
    {out : Transformed} {members : Members} {user : Value}
    (hread : Members.decode d.body = .ok members)
    (huser : Assoc.get? "user" members = some user)
    (hok : transform resolver direction d = .ok out) :
    ∃ translated tree, resolver.resolve direction user.idText = .ok translated ∧
      IsWritten out.publishing.body (Assoc.replace "user" (.text translated) members) tree ∧
      ((∀ doc : Document, doc.bytes = d.body → ∀ t ∈ doc.tree.parts, t.wrapper? ≠ some .text) →
        tree.depth ≤ Json.depthLimit) ∧
      out.messageType = Members.typeHint members ∧
      Members.typeHint (Assoc.replace "user" (.text translated) members) =
        Members.typeHint members := by
  obtain ⟨translated, hresolve, rfl⟩ := eq_withUser_of_transform hread huser hok
  obtain ⟨doc, hbytes, hdepth, hholds⟩ := Members.decode_eq_ok_iff.mp hread
  have hregular := hholds.regular
  have htype : Members.typeHint (Assoc.put "user" (.text translated) members) =
      Members.typeHint members := by
    rw [Members.typeHint, Members.typeHint, Assoc.get?_put_of_ne (by decide)]
  refine ⟨translated, (Members.document (Assoc.put "user" (.text translated) members)).tree,
    hresolve, ?_⟩
  rw [← Assoc.put_of_mem hregular.keys_nodup (mem_keys_of_get? huser)]
  refine ⟨(hregular.put (.text translated) "user").isWritten, fun hfree => ?_, rfl, htype⟩
  exact Json.depth_document_put_le "user" translated
    (Nat.le_trans (hholds.depth_le (hfree doc hbytes)) hdepth)

theorem twoUsers_read_again :
    Members.decode (Delivery.ofBody twoUsers.bytes).body = .ok twoUsersMembers ∧
    Assoc.get? "user" twoUsersMembers = some (.text "b") ∧
    ∃ translated tree, secondUserKnown.resolve .cegaToLega "b" = .ok translated ∧
      IsWritten twoUsersTranslated.publishing.body
        (Assoc.replace "user" (.text translated) twoUsersMembers) tree ∧
      ((∀ doc : Document, doc.bytes = twoUsers.bytes →
          ∀ t ∈ doc.tree.parts, t.wrapper? ≠ some .text) → tree.depth ≤ Json.depthLimit) ∧
      twoUsersTranslated.messageType = Members.typeHint twoUsersMembers ∧
      Members.typeHint (Assoc.replace "user" (.text translated) twoUsersMembers) =
        Members.typeHint twoUsersMembers :=
  ⟨decode_twoUsers, rfl, transform_round_trip (d := .ofBody twoUsers.bytes) decode_twoUsers rfl
    transform_twoUsers⟩

/-! ## 3. Number by number -/

open Json (Numeral Power Step)

/-- A message with a member of some name has a value under it. -/
theorem Json.Tree.Holds.exists_get? {t : Tree} {members : Members} (h : t.Holds members)
    {name : String} (hname : ∃ m ∈ t.members, m.1 = some name) :
    ∃ v, Assoc.get? name members = some v := by
  obtain ⟨m, hm, hm1⟩ := hname
  obtain ⟨-, hne⟩ | ⟨_, v, hget, -⟩ := h.get?_cases name
  · exact absurd hm1 (hne m hm)
  · exact ⟨v, hget⟩

/-- **Numbers keep their places and their digits**, outside of the user.  A number is written with
the characters that it was read with, unless it has an exponent with a capital letter or without a
sign. -/
theorem transform_keeps_numbers {resolver : Resolver} {direction : Direction} {d : Delivery}
    {out : Transformed} {doc : Document} (hdoc : doc.bytes = d.body)
    (huser : ∃ m ∈ doc.tree.members, m.1 = some "user")
    (hok : transform resolver direction d = .ok out) :
    ∃ written : Document, (∀ doc', doc'.bytes = out.publishing.body ↔ doc' = written) ∧
      ∀ path n, doc.tree.at? path = some (.numeral n) →
        (∀ i rest, path ≠ .member i "user" :: rest) →
        written.tree.at? path = some (.numeral n.settled) ∧
        (n.settled.chars = n.chars ↔ ∀ p ∈ n.power, p.capital = false ∧ p.sign ≠ none) := by
  obtain ⟨members, hread⟩ := exists_decode_of_transform hok
  have hholds : doc.tree.Holds members := holds_of_decode (hdoc ▸ hread)
  obtain ⟨user, hget⟩ := hholds.exists_get? huser
  obtain ⟨translated, -, rfl⟩ := eq_withUser_of_transform hread hget hok
  have hwritten := (hholds.regular.put (.text translated) "user").isWritten
  refine ⟨Members.document (Assoc.put "user" (.text translated) members), hwritten.eq_iff,
    fun path n hat hoff => ⟨?_, n.chars_settled_iff⟩⟩
  exact hholds.numeral_at (.text translated) (mem_keys_of_get? hget) hat hoff

/-- The number `1E5`. -/
def oneE5 : Numeral := ⟨false, .ofList [1], none, some ⟨true, none, 5, []⟩⟩

/-- The text `{"user":"b","n":[-0.50,1E5]}`. -/
def withExponent : Document where
  before := []
  tree :=
    .object (.ofName "user") [] (.quoted (Json.quotedPieces "b")) []
      (.cons (.ofName "n") []
        (.array [] (.numeral ⟨true, .zero, some (5, [0]), none⟩) []
          (.cons [] (.numeral oneE5) [] .nil)) [] .nil)
  after := []

/-- What it holds. -/
def withExponentMembers : Members :=
  [("user", .text "b"),
    ("n", .array [.number ⟨true, [0], [5, 0], none⟩, .number ⟨false, [1], [], some ⟨false, [5]⟩⟩])]

/-- What becomes of it. -/
def withExponentTranslated : Transformed :=
  .withUser .cegaToLega (.ofBody withExponent.bytes) withExponentMembers "b" "c"

set_option maxRecDepth 20000 in
theorem decode_withExponent : Members.decode withExponent.bytes = .ok withExponentMembers := rfl

/-- The number `1E5` is written as `1e+5`, where it stood. -/
theorem withExponent_respelt :
    (∃ m ∈ withExponent.tree.members, m.1 = some "user") ∧
    transform secondUserKnown .cegaToLega (.ofBody withExponent.bytes) =
      .ok withExponentTranslated ∧
    ∃ written : Document,
      (∀ doc', doc'.bytes = withExponentTranslated.publishing.body ↔ doc' = written) ∧
      withExponent.tree.at? [.member 1 "n", .item 1] = some (.numeral oneE5) ∧
      written.tree.at? [.member 1 "n", .item 1] = some (.numeral oneE5.settled) ∧
      oneE5.chars = ['1', 'E', '5'] ∧ oneE5.settled.chars = ['1', 'e', '+', '5'] := by
  have huser : ∃ m ∈ withExponent.tree.members, m.1 = some "user" := ⟨_, List.mem_cons_self, rfl⟩
  have hget : Assoc.get? "user" withExponentMembers = some (.text "b") := rfl
  have hok : transform secondUserKnown .cegaToLega (.ofBody withExponent.bytes) =
      .ok withExponentTranslated :=
    transform_of_user (d := .ofBody withExponent.bytes) decode_withExponent hget
  obtain ⟨written, hunique, hnumbers⟩ := transform_keeps_numbers rfl huser hok
  have hat : withExponent.tree.at? [.member 1 "n", .item 1] = some (.numeral oneE5) := rfl
  have hoff : ∀ i rest, [Step.member 1 "n", .item 1] ≠ .member i "user" :: rest := by
    intro i rest h
    obtain ⟨-, hname⟩ := Step.member.inj (List.cons.inj h).1
    exact absurd hname (by decide)
  exact ⟨huser, hok, written, hunique, hat, (hnumbers _ _ hat hoff).1, rfl, rfl⟩

end BrokerBridge
