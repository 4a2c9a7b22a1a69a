import BrokerBridge.Proofs.Json.Acceptance
import BrokerBridge.Proofs.Json.Unambiguous
import BrokerBridge.Proofs.Json.Writing
import BrokerBridge.Transform

/-!
# Outcome of a transformation

A transformation has three courses: the body is no message, it names no user, or it names one.  The
third course asks the store once.  To say how often the store is asked, `transformM` leaves open
what a look-up does; with a look-up that only answers it is `transform` (`transformM_id`), and with
one that is noted it leaves the list of the look-ups behind (`noted`).

* **`transform_outcome`**: which bodies are refused, which are passed on as they are, and what is
  looked up for the others.
-/
namespace BrokerBridge

open Json (Value Members Tree Entries Document)
open scoped Json

/-! ## 1. Courses -/

section

variable {resolver : Resolver} {direction : Direction} {d : Delivery} {members : Members}

theorem transform_of_decode_error {e : Json.ReadError} (h : Members.decode d.body = .error e) :
    transform resolver direction d = .error (.malformed e) := by rw [transform, h]

theorem transform_of_no_user (h : Members.decode d.body = .ok members)
    (huser : Assoc.get? "user" members = none) :
    transform resolver direction d =
      .ok ⟨.forward d d.body, Members.typeHint members, none⟩ := by
  simp only [transform, h, huser]

/-- A delivery that is written anew with another user. -/
def Transformed.withUser (direction : Direction) (d : Delivery) (members : Members)
    (id resolved : String) : Transformed :=
  ⟨.forward d (Members.encode (Assoc.put "user" (.text resolved) members)),
    Members.typeHint members, some ⟨direction, id, resolved⟩⟩

/-- How the store answers a look-up. -/
abbrev Answer := Except StoreFailure (Option String)

/-- What becomes of a delivery whose user has an id, by the answer for that id. -/
def outcome (direction : Direction) (d : Delivery) (members : Members) (id : String) :
    Answer → Except TransformError Transformed
  | .error failure => .error (.identity (.store failure))
  | .ok none => .error (.identity (.notFound id))
  | .ok (some resolved) => .ok (.withUser direction d members id resolved)

theorem outcome_ne_malformed (direction : Direction) (d : Delivery) (members : Members)
    (id : String) (answer : Answer) (e : Json.ReadError) :
    outcome direction d members id answer ≠ .error (.malformed e) := by
  rcases answer with _ | _ | _ <;> exact nofun

theorem outcome_eq_ok_iff {id : String} {answer : Answer} {out : Transformed} :
    outcome direction d members id answer = .ok out ↔
      ∃ resolved, answer = .ok (some resolved) ∧
        out = .withUser direction d members id resolved := by
  rcases answer with _ | _ | resolved
  · exact ⟨nofun, fun ⟨_, h, _⟩ => nomatch h⟩
  · exact ⟨nofun, fun ⟨_, h, _⟩ => nomatch h⟩
  · constructor
    · intro h
      exact ⟨resolved, rfl, (Except.ok.inj h).symm⟩
    · rintro ⟨_, h, rfl⟩
      cases h
      rfl

theorem transform_of_user {user : Value} (h : Members.decode d.body = .ok members)
    (huser : Assoc.get? "user" members = some user) :
    transform resolver direction d =
      outcome direction d members user.idText (resolver.lookup direction user.idText) := by
  simp only [transform, h, huser, Resolver.resolve]
  cases resolver.lookup direction user.idText with
  | error failure => rfl
  | ok answer => cases answer <;> rfl

end

/-! ## 2. Look-ups -/

/-- The transformation over any way to look up. -/
def transformM {m : Type → Type} [Monad m] (lookup : Direction → String → m Answer)
    (direction : Direction) (d : Delivery) : m (Except TransformError Transformed) :=
  match Members.decode d.body with
  | .error e => pure (.error (.malformed e))
  | .ok members =>
    match Assoc.get? "user" members with
    | none => pure (.ok ⟨.forward d d.body, Members.typeHint members, none⟩)
    | some user => do
      return outcome direction d members user.idText (← lookup direction user.idText)

/-- The look-ups of a run, in order. -/
abbrev Lookups := List (Direction × String)

/-- A look-up that is noted. -/
def Resolver.noted (resolver : Resolver) (direction : Direction) (id : String) :
    StateM Lookups Answer := do
  modify (· ++ [(direction, id)])
  pure (resolver.lookup direction id)

section

variable {direction : Direction} {d : Delivery} {members : Members}

theorem run_noted_of_decode_error (resolver : Resolver) {e : Json.ReadError}
    (h : Members.decode d.body = .error e) :
    (transformM resolver.noted direction d).run [] = (transform resolver direction d, []) := by
  rw [transform_of_decode_error h]
  simp only [transformM, h]
  rfl

theorem run_noted_of_no_user (resolver : Resolver) (h : Members.decode d.body = .ok members)
    (huser : Assoc.get? "user" members = none) :
    (transformM resolver.noted direction d).run [] = (transform resolver direction d, []) := by
  rw [transform_of_no_user h huser]
  simp only [transformM, h, huser]
  rfl

theorem run_noted_of_user (resolver : Resolver) {user : Value}
    (h : Members.decode d.body = .ok members) (huser : Assoc.get? "user" members = some user) :
    (transformM resolver.noted direction d).run [] =
      (transform resolver direction d, [(direction, user.idText)]) := by
  rw [transform_of_user h huser]
  simp only [transformM, h, huser]
  rfl

end

/-- **With a look-up that only answers, the two transformations are one.** -/
theorem transformM_id (resolver : Resolver) (direction : Direction) (d : Delivery) :
    transformM (m := Id) resolver.lookup direction d = transform resolver direction d := by
  cases hread : Members.decode d.body with
  | error e =>
    rw [transform_of_decode_error hread]
    simp only [transformM, hread]
    rfl
  | ok members =>
    cases huser : Assoc.get? "user" members with
    | none =>
      rw [transform_of_no_user hread huser]
      simp only [transformM, hread, huser]
      rfl
    | some user =>
      rw [transform_of_user hread huser]
      simp only [transformM, hread, huser]
      rfl

/-! ## 3. The user of a message -/

/-- A value is that of the last member with a name. -/
def LastMember (members : List (Option String × Tree)) (name : String) (t : Tree) : Prop :=
  ∃ before after, members = before ++ (some name, t) :: after ∧ ∀ m ∈ after, m.1 ≠ some name

theorem LastMember.cons {members : List (Option String × Tree)} {name : String} {t : Tree}
    (h : LastMember members name t) (m : Option String × Tree) :
    LastMember (m :: members) name t := by
  obtain ⟨before, after, rfl, hafter⟩ := h
  exact ⟨m :: before, after, rfl, hafter⟩

/-- Of the entries with one name the last decides. -/
theorem Json.Entries.Denote.get?_reverse {q : String} : ∀ {more : Entries}
    {entries : List (String × Value)}, Entries.Denote more entries →
    (Assoc.get? q entries.reverse = none ∧ ∀ m ∈ more.members, m.1 ≠ some q) ∨
    ∃ t v, Assoc.get? q entries.reverse = some v ∧ LastMember more.members q t ∧ t.Denotes v
  | .nil, _, .nil => Or.inl ⟨rfl, nofun⟩
  | .cons key before value after rest, _, h => by
    obtain _ | ⟨hname, head, tail⟩ := h
    rw [List.reverse_cons, Assoc.get?_append, Entries.members, hname]
    obtain ⟨hnone, hne⟩ | ⟨t, v, hget, hlast, hv⟩ := Json.Entries.Denote.get?_reverse tail
    · rw [hnone, Option.none_or, Assoc.get?]
      split
      · rename_i heq
        subst heq
        exact Or.inr ⟨value, _, rfl, ⟨[], rest.members, rfl, hne⟩, head⟩
      · rename_i hkey
        refine Or.inl ⟨rfl, List.forall_mem_cons.mpr ⟨?_, hne⟩⟩
        exact fun heq => hkey (Option.some.inj heq)
    · rw [hget, Option.some_or]
      exact Or.inr ⟨t, v, rfl, hlast.cons _, hv⟩

/-- What a message holds under a name is the value of its last member with that name. -/
theorem Json.Tree.Holds.get?_cases {t : Tree} {members : Members} (h : t.Holds members)
    (q : String) :
    (Assoc.get? q members = none ∧ ∀ m ∈ t.members, m.1 ≠ some q) ∨
    ∃ u v, Assoc.get? q members = some v ∧ LastMember t.members q u ∧ u.Denotes v := by
  cases h with
  | empty inside => exact Or.inl ⟨rfl, nofun⟩
  | entries hentries =>
    rw [Assoc.get?_ofEntries]
    exact hentries.get?_reverse

/-- The text by which a value is looked up: a string as it is, any other value as a text of that
value without white space. -/
def IsIdOf (id : String) (v : Value) : Prop :=
  v = .text id ∨ (∀ s, v ≠ .text s) ∧ ∃ t : Tree, t.chars = id.toList ∧ t.Compact ∧ t.Denotes v

theorem Json.Value.Regular.isIdOf_idText {v : Value} (h : v.Regular) : IsIdOf v.idText v := by
  have written (hne : ∀ s, v ≠ .text s) (hid : v.idText = v.toText) : IsIdOf v.idText v := by
    refine Or.inr ⟨hne, v.tree, ?_, h.compact_tree, h.denotes_tree⟩
    rw [hid, Value.toText, String.toList_ofList, h.chars_tree]
  cases v with
  | text s => exact Or.inl rfl
  | null | boolean | number | array | object => exact written nofun rfl

/-! ## 4. Outcome -/

/-- A text is the text of a message. -/
def IsMessage (text : Bytes) : Prop := ∃ doc : Document, doc.bytes = text ∧ doc.Accepted

/-- A text is the text of a message exactly when it is read as members. -/
theorem isMessage_iff {text : Bytes} :
    IsMessage text ↔ ∃ members, Members.decode text = .ok members :=
  Members.exists_decode_iff.symm

theorem malformed_iff {resolver : Resolver} {direction : Direction} {d : Delivery} :
    (∃ e, transform resolver direction d = .error (.malformed e)) ↔ ¬IsMessage d.body := by
  rw [isMessage_iff]
  cases h : Members.decode d.body with
  | error e =>
    rw [transform_of_decode_error h]
    exact ⟨fun _ => nofun, fun _ => ⟨e, rfl⟩⟩
  | ok members =>
    refine ⟨?_, fun hnone => absurd ⟨members, rfl⟩ hnone⟩
    rintro ⟨e, he⟩
    cases huser : Assoc.get? "user" members with
    | none =>
      rw [transform_of_no_user h huser] at he
      cases he
    | some user =>
      rw [transform_of_user h huser] at he
      exact absurd he (outcome_ne_malformed _ _ _ _ _ _)

/-- **Which bodies are refused, and what becomes of the others.**  A body is refused exactly when
it is no message.  A message without a user is passed on as it is, whatever the store.  For any
other the store is asked once, for the last user, and its answer decides. -/
theorem transform_outcome (resolver : Resolver) (direction : Direction) (d : Delivery) :
    ((∃ e, transform resolver direction d = .error (.malformed e)) ↔ ¬IsMessage d.body) ∧
    ∃ lookups : Lookups,
      (transformM resolver.noted direction d).run [] = (transform resolver direction d, lookups) ∧
      (¬IsMessage d.body → lookups = []) ∧
      ∀ doc : Document, doc.bytes = d.body → doc.Accepted →
        ((∀ m ∈ doc.tree.members, m.1 ≠ some "user") ∧ lookups = [] ∧
          ∃ hint, ∀ resolver' direction',
            transform resolver' direction' d = .ok ⟨.forward d d.body, hint, none⟩) ∨
        ∃ t user members, LastMember doc.tree.members "user" t ∧ t.Denotes user ∧
          doc.tree.Holds members ∧ IsIdOf user.idText user ∧
          lookups = [(direction, user.idText)] ∧
          transform resolver direction d =
            outcome direction d members user.idText (resolver.lookup direction user.idText) := by
  refine ⟨malformed_iff, ?_⟩
  cases h : Members.decode d.body with
  | error e =>
    refine ⟨[], run_noted_of_decode_error resolver h, fun _ => rfl, fun doc hdoc haccepted => ?_⟩
    obtain ⟨members, hmembers⟩ := isMessage_iff.mp ⟨doc, hdoc, haccepted⟩
    cases h.symm.trans hmembers
  | ok members =>
    have hmessage : IsMessage d.body := isMessage_iff.mpr ⟨members, h⟩
    -- a body is one document only, so what any document of it holds was read
    have holds (doc : Document) (hdoc : doc.bytes = d.body) : doc.tree.Holds members := by
      obtain ⟨doc', hdoc', -, hholds⟩ := Members.decode_eq_ok_iff.mp h
      rwa [Document.eq_of_bytes (hdoc.trans hdoc'.symm)]
    cases huser : Assoc.get? "user" members with
    | none =>
      refine ⟨[], run_noted_of_no_user resolver h huser, fun _ => rfl, fun doc hdoc _ => ?_⟩
      obtain ⟨-, hne⟩ | ⟨u, v, hsome, -⟩ := (holds doc hdoc).get?_cases "user"
      · exact Or.inl ⟨hne, rfl, _, fun _ _ => transform_of_no_user h huser⟩
      · cases huser.symm.trans hsome
    | some user =>
      refine ⟨_, run_noted_of_user resolver h huser, fun hno => absurd hmessage hno,
        fun doc hdoc _ => ?_⟩
      obtain ⟨hnone, -⟩ | ⟨u, v, hsome, hlast, hv⟩ := (holds doc hdoc).get?_cases "user"
      · cases huser.symm.trans hnone
      · cases huser.symm.trans hsome
        exact Or.inr ⟨u, user, members, hlast, hv, holds doc hdoc, hv.regular.isIdOf_idText, rfl,
          transform_of_user h huser⟩

/-- A delivery with a body and nothing else. -/
def Delivery.ofBody (body : Bytes) : Delivery := { (default : Delivery) with body }

/-- An object with the number 1 under the key that wraps a text. -/
def wrappedOne : Tree :=
  .object (.ofName Json.textKey) [] (.numeral ⟨false, .digits 1 (by decide) [], none, none⟩) [] .nil

/-- The message that has it as its only member. -/
def messageOfWrappedOne : Document := ⟨[], .object (.ofName "a") [] wrappedOne [] .nil, []⟩

theorem wrapper?_wrappedOne : wrappedOne.wrapper? = some .text :=
  (Json.Tree.wrapper?_object (Json.Key.text?_ofName _)).trans
    (Json.Wrapper.ofKey?_eq_text_iff.mpr rfl)

/-- A body is refused also for a wrapped text that is no string: nothing else is wrong with this
one. -/
theorem transform_refuses_wrappedOne :
    (messageOfWrappedOne.tree.IsObject ∧ messageOfWrappedOne.tree.depth ≤ Json.depthLimit ∧
      (∀ t ∈ messageOfWrappedOne.tree.nodes, t.Paired) ∧
      ∀ t ∈ messageOfWrappedOne.tree.parts, t.WrapsNumber) ∧
    ∃ e, transform (.ofMapping {}) .cegaToLega (.ofBody messageOfWrappedOne.bytes) =
      .error (.malformed e) := by
  have hname (name : String) : (Json.Key.ofName name).text?.isSome :=
    Option.isSome_of_eq_some (Json.Key.text?_ofName name)
  refine ⟨⟨trivial, by decide, ?_, ?_⟩, malformed_iff.mpr ?_⟩
  · simp only [Tree.nodes, messageOfWrappedOne, wrappedOne, Tree.parts, Json.Entries.parts,
      List.append_nil, List.forall_mem_cons, Json.Tree.paired_object, hname, true_and]
    refine ⟨?_, ?_, ?_, ?_⟩ <;> rintro _ ⟨⟩
  · refine List.forall_mem_cons.mpr ⟨fun h => ?_, List.forall_mem_singleton.mpr fun h => ?_⟩
    · cases wrapper?_wrappedOne.symm.trans h
    · cases h
  · rintro ⟨doc, hdoc, haccepted⟩
    obtain rfl := Document.eq_of_bytes hdoc
    obtain ⟨doc, halone, -⟩ := haccepted.wrapsText wrappedOne List.mem_cons_self wrapper?_wrappedOne
    obtain ⟨pieces, hfirst, -⟩ := Json.Tree.holdsAlone_object.mp halone
    cases hfirst

end BrokerBridge
