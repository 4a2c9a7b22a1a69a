import BrokerBridge.Proofs.Json.Reading

/-!
# Which JSON texts have a reading

A value has a reading when each place inside it is sound: its surrogates are paired, and where it
is a wrapper, what it wraps has a reading.  The proof goes over the value with one case for each
of its forms; only an object in front of which a wrapper's key stands needs more than its parts.

* `Tree.exists_denotes_iff` is that statement for a value, `Tree.exists_holds_iff` for the object
  that is a whole message.
* **`Document.accepted_iff`**: a document is accepted exactly when it is read as the members of a
  message.
-/
namespace BrokerBridge.Json

/-- The place is no obstacle to a reading. -/
structure Tree.Sound (t : Tree) : Prop where
  paired : t.Paired
  wrapsNumber : t.WrapsNumber
  wrapsText : t.WrapsText

/-- Where there is no wrapper, nothing is wrapped. -/
theorem Tree.sound_iff_paired {t : Tree} (h : t.wrapper? = none) : t.Sound ↔ t.Paired := by
  constructor
  · exact Sound.paired
  · intro hpaired
    refine ⟨hpaired, fun hw => ?_, fun hw => ?_⟩
    · cases h.symm.trans hw
    · cases h.symm.trans hw

/-- A value without parts is sound where its surrogates are paired. -/
theorem Tree.forall_nodes_leaf {t : Tree} (hparts : t.parts = []) (hw : t.wrapper? = none) :
    (∀ n ∈ t.nodes, n.Sound) ↔ t.Paired := by
  rw [Tree.nodes, hparts, List.forall_mem_singleton, Tree.sound_iff_paired hw]

section

variable {key : Key} {before after : List Blank} {first : Tree} {more : Entries}
  {pieces : List Piece} {cs : List Char}

theorem isSome_text?_iff : (text? pieces).isSome ↔ (unescape? pieces).isSome := by
  rw [text?, Option.isSome_map]

/-- A string has a reading exactly when its surrogates are paired. -/
theorem Tree.exists_denotes_quoted :
    (∃ v, (Tree.quoted pieces).Denotes v) ↔ (unescape? pieces).isSome := by
  rw [← isSome_text?_iff, Option.isSome_iff_exists]
  constructor
  · rintro ⟨_, h⟩
    cases h with
    | quoted hs => exact ⟨_, hs⟩
  · rintro ⟨s, hs⟩
    exact ⟨_, .quoted hs⟩

theorem Tree.holdsAlone_object :
    (Tree.object key before first after more).HoldsAlone cs ↔
      ∃ pieces, first = .quoted pieces ∧ more = .nil ∧ unescape? pieces = some cs := by
  constructor
  · rintro ⟨name, pieces, hmembers, hcs⟩
    cases more with
    | nil =>
      simp only [Tree.members, Entries.members, List.cons.injEq, Prod.mk.injEq] at hmembers
      exact ⟨pieces, hmembers.1.2, rfl, hcs⟩
    | cons _ _ _ _ _ => simp [Tree.members, Entries.members] at hmembers
  · rintro ⟨pieces, rfl, rfl, hcs⟩
    exact ⟨key.text?, pieces, rfl, hcs⟩

theorem Tree.paired_object :
    (Tree.object key before first after more).Paired ↔
      key.text?.isSome ∧ ∀ m ∈ more.members, m.1.isSome := by
  simp only [Tree.Paired, Tree.members, List.forall_mem_cons]

theorem Entries.exists_denote_cons :
    (∃ entries, Entries.Denote (.cons key before first after more) entries) ↔
      key.text?.isSome ∧ (∃ v, first.Denotes v) ∧ ∃ entries, Entries.Denote more entries := by
  rw [Option.isSome_iff_exists]
  constructor
  · rintro ⟨_, h⟩
    obtain _ | ⟨hname, hfirst, hmore⟩ := h
    exact ⟨⟨_, hname⟩, ⟨_, hfirst⟩, ⟨_, hmore⟩⟩
  · rintro ⟨⟨_, hname⟩, ⟨_, hfirst⟩, ⟨_, hmore⟩⟩
    exact ⟨_, .cons hname hfirst hmore⟩

theorem Items.exists_denote_cons {more : Items} :
    (∃ vs, Items.Denote (.cons before first after more) vs) ↔
      (∃ v, first.Denotes v) ∧ ∃ vs, Items.Denote more vs := by
  constructor
  · rintro ⟨_, h⟩
    obtain _ | ⟨hfirst, hmore⟩ := h
    exact ⟨⟨_, hfirst⟩, ⟨_, hmore⟩⟩
  · rintro ⟨⟨_, hfirst⟩, ⟨_, hmore⟩⟩
    exact ⟨_, .cons hfirst hmore⟩

/-- A wrapper has a reading exactly when it wraps soundly. -/
theorem Tree.exists_denotes_wrapper {name : String} {w : Wrapper} (hname : key.text? = some name)
    (hw : Wrapper.ofKey? name = some w) :
    (∃ v, (Tree.object key before first after more).Denotes v) ↔
      (Tree.object key before first after more).WrapsNumber ∧
        (Tree.object key before first after more).WrapsText := by
  have hwrapper : (Tree.object key before first after more).wrapper? = some w :=
    (Tree.wrapper?_object hname).trans hw
  simp only [WrapsNumber, WrapsText, hwrapper, Tree.holdsAlone_object]
  constructor
  · rintro ⟨v, h⟩
    cases h with
    | object hname' hplain _ =>
      obtain rfl := Option.some.inj (hname.symm.trans hname')
      rw [hplain] at hw
      cases hw
    | wrappedNumber hname' hs =>
      obtain rfl := Option.some.inj (hname.symm.trans hname')
      rw [Wrapper.ofKey?_eq_number_iff.mpr rfl] at hw
      cases hw
      exact ⟨fun _ => ⟨_, _, rfl, rfl, hs⟩, nofun⟩
    | wrappedText hname' hs hdepth inner =>
      obtain rfl := Option.some.inj (hname.symm.trans hname')
      rw [Wrapper.ofKey?_eq_text_iff.mpr rfl] at hw
      cases hw
      exact ⟨nofun, fun _ => ⟨_, ⟨_, rfl, rfl, hs⟩, hdepth, _, inner⟩⟩
  · rintro ⟨hnumber, htext⟩
    cases w with
    | number =>
      obtain ⟨n, pieces, rfl, rfl, hs⟩ := hnumber rfl
      rw [Wrapper.ofKey?_eq_number_iff.mp hw] at hname
      exact ⟨_, .wrappedNumber hname hs⟩
    | text =>
      obtain ⟨doc, ⟨pieces, rfl, rfl, hs⟩, hdepth, v, inner⟩ := htext rfl
      rw [Wrapper.ofKey?_eq_text_iff.mp hw] at hname
      exact ⟨v, .wrappedText hname hs hdepth inner⟩

/-- Where an object has a reading, so has each of its members. -/
theorem Tree.Denotes.members {v : Value} (h : (Tree.object key before first after more).Denotes v) :
    key.text?.isSome ∧ (∃ v, first.Denotes v) ∧ ∃ entries, Entries.Denote more entries := by
  cases h with
  | object hname hplain members => exact Entries.exists_denote_cons.mp ⟨_, members⟩
  | wrappedNumber hname hs =>
    exact ⟨Option.isSome_of_eq_some hname, ⟨_, .quoted (text?_eq_some hs)⟩, _, .nil⟩
  | wrappedText hname hs hdepth inner =>
    exact ⟨Option.isSome_of_eq_some hname, ⟨_, .quoted (text?_eq_some hs)⟩, _, .nil⟩

end

/-- Members that stand for something have names with paired surrogates. -/
theorem Entries.Denote.paired : ∀ {more : Entries} {entries : List (String × Value)},
    Entries.Denote more entries → ∀ m ∈ more.members, m.1.isSome
  | .nil, _, _ => nofun
  | .cons _ _ _ _ _, _, h => by
    obtain _ | ⟨hname, _, hrest⟩ := h
    exact List.forall_mem_cons.mpr
      ⟨Option.isSome_of_eq_some hname, Entries.Denote.paired hrest⟩

/-- An object has a reading exactly when it is sound and all its members have one. -/
theorem Tree.exists_denotes_object {key : Key} {before after : List Blank} {first : Tree}
    {more : Entries} :
    (∃ v, (Tree.object key before first after more).Denotes v) ↔
      (Tree.object key before first after more).Sound ∧ (∃ v, first.Denotes v) ∧
        ∃ entries, Entries.Denote more entries := by
  constructor
  · rintro ⟨v, h⟩
    obtain ⟨hkey, hvalue, hentries⟩ := h.members
    refine ⟨?_, hvalue, hentries⟩
    obtain ⟨name, hname⟩ := Option.isSome_iff_exists.mp hkey
    obtain ⟨entries, hmore⟩ := hentries
    have hself : (Tree.object key before first after more).Paired :=
      Tree.paired_object.mpr ⟨hkey, hmore.paired⟩
    cases hw : Wrapper.ofKey? name with
    | none => exact (Tree.sound_iff_paired ((Tree.wrapper?_object hname).trans hw)).mpr hself
    | some w =>
      obtain ⟨hnumber, htext⟩ := (Tree.exists_denotes_wrapper hname hw).mp ⟨v, h⟩
      exact ⟨hself, hnumber, htext⟩
  · rintro ⟨hself, hvalue, hmore⟩
    obtain ⟨hkey, -⟩ := Tree.paired_object.mp hself.paired
    obtain ⟨name, hname⟩ := Option.isSome_iff_exists.mp hkey
    cases hw : Wrapper.ofKey? name with
    | none =>
      obtain ⟨entries, hentries⟩ := Entries.exists_denote_cons.mpr ⟨hkey, hvalue, hmore⟩
      exact ⟨_, .object hname hw hentries⟩
    | some w =>
      exact (Tree.exists_denotes_wrapper hname hw).mpr ⟨hself.wrapsNumber, hself.wrapsText⟩

mutual

/-- A value has a reading exactly when all places in it are sound. -/
theorem Tree.exists_denotes_iff : ∀ t : Tree, (∃ v, t.Denotes v) ↔ ∀ n ∈ t.nodes, n.Sound
  | .null => by
    rw [Tree.forall_nodes_leaf rfl rfl]
    exact ⟨fun _ => nofun, fun _ => ⟨_, .null⟩⟩
  | .boolean b => by
    rw [Tree.forall_nodes_leaf rfl rfl]
    exact ⟨fun _ => nofun, fun _ => ⟨_, .boolean b⟩⟩
  | .numeral n => by
    rw [Tree.forall_nodes_leaf rfl rfl]
    exact ⟨fun _ => nofun, fun _ => ⟨_, .numeral n⟩⟩
  | .quoted pieces => by
    rw [Tree.forall_nodes_leaf rfl rfl]
    exact Tree.exists_denotes_quoted
  | .emptyArray inside => by
    rw [Tree.forall_nodes_leaf rfl rfl]
    exact ⟨fun _ => nofun, fun _ => ⟨_, .emptyArray inside⟩⟩
  | .array before first after more => by
    have hfirst := Tree.exists_denotes_iff first
    have hmore := Items.exists_denote_iff more
    rw [Tree.nodes, Tree.parts, List.forall_mem_cons, Tree.sound_iff_paired rfl,
      List.forall_mem_append, ← Tree.nodes, ← hfirst, ← hmore, ← Items.exists_denote_cons]
    constructor
    · rintro ⟨v, h⟩
      cases h with
      | array hvs => exact ⟨nofun, _, hvs⟩
    · rintro ⟨-, vs, hvs⟩
      exact ⟨_, .array hvs⟩
  | .emptyObject inside => by
    rw [Tree.forall_nodes_leaf rfl rfl]
    exact ⟨fun _ => nofun, fun _ => ⟨_, .emptyObject inside⟩⟩
  | .object key before first after more => by
    have hfirst := Tree.exists_denotes_iff first
    have hmore := Entries.exists_denote_iff more
    rw [Tree.exists_denotes_object, Tree.nodes, Tree.parts, List.forall_mem_cons,
      List.forall_mem_append, ← Tree.nodes, hfirst, hmore]
    constructor
    · rintro ⟨hself, hvalue, -, hparts⟩
      exact ⟨hself, hvalue, hparts⟩
    · rintro ⟨hself, hvalue, hparts⟩
      exact ⟨hself, hvalue, (Tree.paired_object.mp hself.paired).2, hparts⟩

/-- Further items have a reading exactly when all places in them are sound. -/
theorem Items.exists_denote_iff : ∀ more : Items,
    (∃ vs, Items.Denote more vs) ↔ ∀ n ∈ more.parts, n.Sound
  | .nil => ⟨fun _ => nofun, fun _ => ⟨_, .nil⟩⟩
  | .cons before value after rest => by
    have hvalue := Tree.exists_denotes_iff value
    have hrest := Items.exists_denote_iff rest
    rw [Items.parts, List.forall_mem_append, ← Tree.nodes, ← hvalue, ← hrest,
      Items.exists_denote_cons]

/-- Further members have a reading exactly when their names are paired and all places in them are
sound. -/
theorem Entries.exists_denote_iff : ∀ more : Entries,
    (∃ entries, Entries.Denote more entries) ↔
      (∀ m ∈ more.members, m.1.isSome) ∧ ∀ n ∈ more.parts, n.Sound
  | .nil => ⟨fun _ => ⟨nofun, nofun⟩, fun _ => ⟨_, .nil⟩⟩
  | .cons key before value after rest => by
    have hvalue := Tree.exists_denotes_iff value
    have hrest := Entries.exists_denote_iff rest
    rw [Entries.parts, Entries.members, List.forall_mem_append, List.forall_mem_cons, ← Tree.nodes,
      ← hvalue, Entries.exists_denote_cons, hrest]
    tauto

end

/-- An object holds members exactly when its names are paired and all places inside it are
sound. -/
theorem Tree.exists_holds_iff (t : Tree) :
    (∃ members, t.Holds members) ↔ t.IsObject ∧ t.Paired ∧ ∀ n ∈ t.parts, n.Sound := by
  cases t with
  | null | boolean | numeral | quoted | emptyArray | array => exact ⟨nofun, fun h => h.1.elim⟩
  | emptyObject inside => exact ⟨fun _ => ⟨trivial, nofun, nofun⟩, fun _ => ⟨_, .empty inside⟩⟩
  | object key before first after more =>
    have hentries : (∃ members, (Tree.object key before first after more).Holds members) ↔
        ∃ entries, Entries.Denote (.cons key before first after more) entries :=
      ⟨fun ⟨_, .entries h⟩ => ⟨_, h⟩, fun ⟨_, h⟩ => ⟨_, .entries h⟩⟩
    rw [hentries, Entries.exists_denote_iff, Entries.parts, Tree.parts]
    exact ⟨fun ⟨hpaired, hparts⟩ => ⟨trivial, hpaired, hparts⟩,
      fun ⟨_, hpaired, hparts⟩ => ⟨hpaired, hparts⟩⟩

/-- **A document is accepted exactly when it is read as the members of a message.** -/
theorem Document.accepted_iff (doc : Document) :
    doc.Accepted ↔ doc.tree.depth ≤ depthLimit ∧ ∃ members, doc.tree.Holds members := by
  rw [Tree.exists_holds_iff]
  constructor
  · intro h
    obtain ⟨hself, hparts⟩ := List.forall_mem_cons.mp h.paired
    exact ⟨h.depth_le, h.isObject, hself,
      fun n hn => ⟨hparts n hn, h.wrapsNumber n hn, h.wrapsText n hn⟩⟩
  · rintro ⟨hdepth, hobject, hself, hparts⟩
    exact ⟨hobject, hdepth, List.forall_mem_cons.mpr ⟨hself, fun n hn => (hparts n hn).paired⟩,
      fun n hn => (hparts n hn).wrapsNumber, fun n hn => (hparts n hn).wrapsText⟩

/-- A text is read as the members of a message exactly when it is an accepted document. -/
theorem Members.exists_decode_iff {text : Bytes} :
    (∃ members, Members.decode text = .ok members) ↔
      ∃ doc : Document, doc.bytes = text ∧ doc.Accepted := by
  simp only [Members.decode_eq_ok_iff, Document.accepted_iff]
  constructor
  · rintro ⟨members, doc, hbytes, hdepth, hholds⟩
    exact ⟨doc, hbytes, hdepth, members, hholds⟩
  · rintro ⟨doc, hbytes, hdepth, members, hholds⟩
    exact ⟨members, doc, hbytes, hdepth, hholds⟩

end BrokerBridge.Json
