import BrokerBridge.Proofs.Utf8
import BrokerBridge.Supervision.Tls
import BrokerBridge.Text.Blank

/-!
# What is asked of a bundle of certificates

Settings that ask for verification name a file.  It must be readable and hold UTF-8, and its text is
the bundle, unchanged.

* `HoldsCertificate`: what a bundle is for.  It has a complete block: a line that begins a
  certificate and after it a line that ends one.
* **`tlsMode_outcome`**: which settings and files give which mode.

The text is searched only for the mark at the beginning of a certificate (`occursIn_iff_infix`).
That finds every complete block (`HoldsCertificate.marks`), and it also finds the beginning of a
block that breaks off: such a bundle is taken, although it holds no certificate
(`verified_truncated`).
-/
namespace BrokerBridge

/-! ## 1. Marks in a text -/

/-- The search for a run finds it wherever it is, and nothing else. -/
theorem occursIn_iff_infix {needle : List Char} :
    ∀ {cs : List Char}, occursIn needle cs = true ↔ needle <:+: cs
  | [] => by rw [occursIn, List.isEmpty_iff, List.infix_nil]
  | c :: cs => by
    rw [occursIn, Bool.or_eq_true, List.isPrefixOf_iff_prefix, List.infix_cons_iff,
      occursIn_iff_infix]

theorem mem_intersperse {α : Type} {separator a : α} :
    ∀ {as : List α}, a ∈ as → a ∈ as.intersperse separator
  | [_], h => h
  | b :: b' :: rest, h => by
    rw [List.intersperse_cons_cons]
    rcases List.mem_cons.mp h with rfl | h
    · exact List.mem_cons_self
    · exact List.mem_cons_of_mem _ (List.mem_cons_of_mem _ (mem_intersperse h))

/-- The lines of a text. -/
def linesOf (text : String) : List (List Char) := text.toList.splitOn '\n'

theorem infix_of_mem_linesOf {text : String} {line : List Char} (h : line ∈ linesOf text) :
    line <:+: text.toList := by
  have hlines : ['\n'].intercalate (linesOf text) = text.toList := List.intercalate_splitOn '\n'
  rw [← hlines]
  exact List.infix_of_mem_flatten (mem_intersperse h)

/-! ## 2. Complete blocks -/

/-- The mark at the end of a certificate. -/
def certificateEnd : String := "-----END CERTIFICATE-----"

/-- A line with a mark and, behind it, white space at most. -/
def IsMarkLine (mark : String) (line : List Char) : Prop :=
  ∃ blanks, line = mark.toList ++ blanks ∧ ∀ c ∈ blanks, Text.isBlank c = true

/-- **A text with a complete certificate**: a line that begins it, and after that a line that ends
it. -/
def HoldsCertificate (text : String) : Prop :=
  ∃ before first inside last after,
    linesOf text = before ++ first :: inside ++ last :: after ∧
      IsMarkLine certificateMark first ∧ IsMarkLine certificateEnd last

theorem IsMarkLine.occurs {mark text : String} {line : List Char} (h : IsMarkLine mark line)
    (hline : line ∈ linesOf text) : mark.toList <:+: text.toList := by
  obtain ⟨blanks, rfl, -⟩ := h
  exact (List.prefix_append _ _).isInfix.trans (infix_of_mem_linesOf hline)

/-- A text with a complete block has the marks of both its ends. -/
theorem HoldsCertificate.marks {text : String} (h : HoldsCertificate text) :
    certificateMark.toList <:+: text.toList ∧ certificateEnd.toList <:+: text.toList := by
  obtain ⟨before, first, inside, last, after, hlines, hfirst, hlast⟩ := h
  refine ⟨hfirst.occurs ?_, hlast.occurs ?_⟩ <;> rw [hlines] <;> simp

/-! ## 3. Modes -/

/-- Settings that ask for a verified connection, with the bundle in the file at a path. -/
structure TlsSettings.Verifies (s : TlsSettings) (path : String) : Prop where
  enabled : s.enabled = true
  verifyCert : s.verifyCert = true
  caCertPath : s.caCertPath = some path

section

variable {files : FileTree} {s : TlsSettings} {path text : String}

/-- The text of a file: its bytes are those of the text. -/
theorem FileTree.readText_eq_ok_iff :
    files.readText path = .ok text ↔ files.read path = .ok (Utf8.ofString text) := by
  unfold readText
  cases files.read path with
  | error fault => exact ⟨nofun, nofun⟩
  | ok content =>
    dsimp only
    rw [Except.ok.injEq, ← Utf8.text?_eq_some_iff]
    cases Utf8.text? content with
    | none => exact ⟨nofun, nofun⟩
    | some _ => simp

theorem loadCaBundle_eq_ok_iff {bundle : String} :
    loadCaBundle files path = .ok bundle ↔
      files.read path = .ok (Utf8.ofString bundle) ∧ certificateMark.toList <:+: bundle.toList := by
  rw [← FileTree.readText_eq_ok_iff, ← occursIn_iff_infix, loadCaBundle]
  cases files.readText path with
  | error fault => exact ⟨nofun, nofun⟩
  | ok pem =>
    dsimp only
    rw [Except.ok.injEq]
    split
    · rename_i hmark
      rw [Except.ok.injEq]
      exact ⟨fun h => ⟨h, h ▸ hmark⟩, And.left⟩
    · rename_i hmark
      exact ⟨nofun, fun ⟨h, hbundle⟩ => absurd (h ▸ hbundle) hmark⟩

theorem loadCaBundle_of_unmarked (h : files.read path = .ok (Utf8.ofString text))
    (hmark : ¬certificateMark.toList <:+: text.toList) :
    loadCaBundle files path = .error (.invalidCaCert path) := by
  rw [← FileTree.readText_eq_ok_iff] at h
  rw [← occursIn_iff_infix] at hmark
  rw [loadCaBundle, h]
  exact if_neg hmark

theorem tlsMode_of_disabled (h : s.enabled = false) : tlsMode files s = .ok .plain := by
  simp [tlsMode, h]

theorem tlsMode_of_unverified (h : s.enabled = true) (hverify : s.verifyCert = false) :
    tlsMode files s = .ok .unverified := by
  simp [tlsMode, h, hverify]

theorem tlsMode_of_missing (h : s.enabled = true) (hverify : s.verifyCert = true)
    (hpath : s.caCertPath = none) : tlsMode files s = .error .missingCaCert := by
  simp [tlsMode, h, hverify, hpath]

theorem TlsSettings.Verifies.tlsMode_eq (h : s.Verifies path) :
    tlsMode files s = (loadCaBundle files path).map .verified := by
  simp [tlsMode, h.enabled, h.verifyCert, h.caCertPath]

/-- Settings that ask for verification get it or nothing. -/
theorem TlsSettings.Verifies.eq_verified {mode : TlsMode} (h : s.Verifies path)
    (hmode : tlsMode files s = .ok mode) :
    ∃ bundle, mode = .verified bundle ∧ loadCaBundle files path = .ok bundle := by
  rw [h.tlsMode_eq] at hmode
  cases hload : loadCaBundle files path with
  | error e =>
    rw [hload] at hmode
    cases hmode
  | ok bundle =>
    rw [hload] at hmode
    exact ⟨bundle, (Except.ok.inj hmode).symm, rfl⟩

/-- The four kinds of settings, with what they come to. -/
theorem tlsMode_cases (files : FileTree) (s : TlsSettings) :
    (s.enabled = false ∧ tlsMode files s = .ok .plain) ∨
      (s.enabled = true ∧ s.verifyCert = false ∧ tlsMode files s = .ok .unverified) ∨
      tlsMode files s = .error .missingCaCert ∨ ∃ path, s.Verifies path := by
  cases henabled : s.enabled with
  | false => exact .inl ⟨rfl, tlsMode_of_disabled henabled⟩
  | true =>
    cases hverify : s.verifyCert with
    | false => exact .inr (.inl ⟨rfl, rfl, tlsMode_of_unverified henabled hverify⟩)
    | true =>
      cases hpath : s.caCertPath with
      | none => exact .inr (.inr (.inl (tlsMode_of_missing henabled hverify hpath)))
      | some path => exact .inr (.inr (.inr ⟨path, henabled, hverify, hpath⟩))

theorem tlsMode_eq_plain_iff : tlsMode files s = .ok .plain ↔ s.enabled = false := by
  refine ⟨fun hmode => ?_, tlsMode_of_disabled⟩
  obtain ⟨h, -⟩ | ⟨-, -, h⟩ | h | ⟨path, hpath⟩ := tlsMode_cases files s
  · exact h
  · cases h.symm.trans hmode
  · cases h.symm.trans hmode
  · obtain ⟨_, h, -⟩ := hpath.eq_verified hmode
    cases h

theorem tlsMode_eq_unverified_iff :
    tlsMode files s = .ok .unverified ↔ s.enabled = true ∧ s.verifyCert = false := by
  refine ⟨fun hmode => ?_, fun h => tlsMode_of_unverified h.1 h.2⟩
  obtain ⟨-, h⟩ | ⟨henabled, hverify, -⟩ | h | ⟨path, hpath⟩ := tlsMode_cases files s
  · cases h.symm.trans hmode
  · exact ⟨henabled, hverify⟩
  · cases h.symm.trans hmode
  · obtain ⟨_, h, -⟩ := hpath.eq_verified hmode
    cases h

theorem tlsMode_eq_verified_iff {bundle : String} :
    tlsMode files s = .ok (.verified bundle) ↔
      ∃ path, s.Verifies path ∧ loadCaBundle files path = .ok bundle := by
  constructor
  · intro hmode
    obtain ⟨-, h⟩ | ⟨-, -, h⟩ | h | ⟨path, hpath⟩ := tlsMode_cases files s
    · cases h.symm.trans hmode
    · cases h.symm.trans hmode
    · cases h.symm.trans hmode
    · obtain ⟨_, h, hload⟩ := hpath.eq_verified hmode
      cases h
      exact ⟨path, hpath, hload⟩
  · rintro ⟨path, hpath, hload⟩
    rw [hpath.tlsMode_eq, hload]
    rfl

end

/-- **What securing connections comes to**, for all settings and all files.

* Connections are plain just when TLS is disabled, and unverified just when it is enabled without
  verification.  The files are not looked at then.
* They are verified just when the settings name a file that can be read, holds UTF-8 and has the
  mark of a certificate; the bundle is its text.
* Of a file that can be read and holds UTF-8, the text is taken when it has a complete block, and
  refused when it does not even have the mark. -/
theorem tlsMode_outcome (files : FileTree) (s : TlsSettings) :
    (tlsMode files s = .ok .plain ↔ s.enabled = false) ∧
      (tlsMode files s = .ok .unverified ↔ s.enabled = true ∧ s.verifyCert = false) ∧
      (s.enabled = false ∨ s.verifyCert = false →
        ∀ files', tlsMode files' s = tlsMode files s) ∧
      (∀ bundle, tlsMode files s = .ok (.verified bundle) ↔
        ∃ path, s.Verifies path ∧ files.read path = .ok (Utf8.ofString bundle) ∧
          certificateMark.toList <:+: bundle.toList) ∧
      ∀ path text, s.Verifies path → files.read path = .ok (Utf8.ofString text) →
        (HoldsCertificate text → tlsMode files s = .ok (.verified text)) ∧
        (¬certificateMark.toList <:+: text.toList →
          tlsMode files s = .error (.invalidCaCert path)) := by
  refine ⟨tlsMode_eq_plain_iff, tlsMode_eq_unverified_iff, fun h files' => ?_, fun bundle => ?_,
    fun path text hpath hread => ⟨fun hholds => ?_, fun hmark => ?_⟩⟩
  · cases henabled : s.enabled with
    | false => rw [tlsMode_of_disabled henabled, tlsMode_of_disabled henabled]
    | true =>
      have hverify : s.verifyCert = false := h.resolve_left (by simp [henabled])
      rw [tlsMode_of_unverified henabled hverify, tlsMode_of_unverified henabled hverify]
  · simp only [tlsMode_eq_verified_iff, loadCaBundle_eq_ok_iff]
  · exact tlsMode_eq_verified_iff.mpr
      ⟨path, hpath, loadCaBundle_eq_ok_iff.mpr ⟨hread, hholds.marks.1⟩⟩
  · rw [hpath.tlsMode_eq, loadCaBundle_of_unmarked hread hmark]
    rfl

/-- A certificate that breaks off. -/
def truncatedBundle : String := "-----BEGIN CERTIFICATE-----\nMIIB"

/-- The certificate to its end. -/
def wholeBundle : String := truncatedBundle ++ "\n-----END CERTIFICATE-----\n"

theorem holdsCertificate_wholeBundle : HoldsCertificate wholeBundle := by
  refine ⟨[], certificateMark.toList, ["MIIB".toList], certificateEnd.toList, [[]], ?_,
    ⟨[], (List.append_nil _).symm, nofun⟩, ⟨[], (List.append_nil _).symm, nofun⟩⟩
  decide

theorem read_lone_file (content : Bytes) :
    FileTree.read { files := [("ca.pem", content)] } "ca.pem" = .ok content := by
  have hzero : "ca.pem".contains (Char.ofNat 0) = false := by
    rw [String.contains_char_eq]
    decide
  have hroot : "ca.pem".startsWith "/" = false := by decide +kernel
  have hend : ¬("ca.pem".endsWith "/" ∨ "ca.pem".endsWith "/.") := by decide +kernel
  have hsize : "ca.pem".utf8ByteSize = 6 := by decide
  have hparts : pathComponents "ca.pem" = ["ca.pem"] := by decide +kernel
  have hfollow : FileTree.follow { files := [("ca.pem", content)] } "ca.pem" =
      .ok (.file content) := by
    simp [FileTree.follow, hroot, hparts, FileTree.walk, FileTree.step, FileTree.nodeAt?, hsize]
  simp [FileTree.read, FileTree.find, hzero, hfollow, hend, hsize]

/-- **A bundle that breaks off is taken**, although it holds no certificate; so is the whole one, and
only what has no mark is refused. -/
theorem verified_truncated :
    let mode (bundle : String) := tlsMode { files := [("ca.pem", Utf8.ofString bundle)] }
      { enabled := true, caCertPath := some "ca.pem" }
    ¬HoldsCertificate truncatedBundle ∧
      mode truncatedBundle = .ok (.verified truncatedBundle) ∧
      mode wholeBundle = .ok (.verified wholeBundle) ∧
      mode "MIIB" = .error (.invalidCaCert "ca.pem") := by
  refine ⟨fun h => ?_,
    ((tlsMode_outcome _ _).2.2.2.1 _).mpr ⟨"ca.pem", ⟨rfl, rfl, rfl⟩, read_lone_file _, ?_⟩,
    ((tlsMode_outcome _ _).2.2.2.2 _ _ ⟨rfl, rfl, rfl⟩ (read_lone_file _)).1
      holdsCertificate_wholeBundle,
    ((tlsMode_outcome _ _).2.2.2.2 _ "MIIB" ⟨rfl, rfl, rfl⟩ (read_lone_file _)).2 ?_⟩
  · have hend := occursIn_iff_infix.mpr h.marks.2
    revert hend
    decide
  · rw [← occursIn_iff_infix]
    decide
  · rw [← occursIn_iff_infix]
    decide

end BrokerBridge
