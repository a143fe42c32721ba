/-
  What an edit of a registry file keeps, and when.
-/
import LocalMoe.Extensions.Registry
import LocalMoe.Foundation.Loops

namespace LocalMoe.Extensions

open Gateway (Text text strip)
open Foundation

variable {φ : Type} (B : Builtins φ) (limit : Nat) (surface : Surface) (mode : Mode)
  (definition : Dict φ) (old : List UInt8)

/-! ## The contract of an edit -/

def edit (file : List UInt8) (mode : Mode) : Except Raised (Report × List UInt8) :=
  configureExtensionEntry B limit (text surface.name) definition (text mode.name) (some file)

/-- What the file lists after an edit, of what it listed. -/
def edited (identity : Text) (parsed : Entry φ) (entries : List (Entry φ)) : Mode → List (Entry φ)
  | .remove => entries.filter fun entry => entry.identity ≠ identity
  | .upsert =>
    match entries.findIdx? fun entry => entry.identity = identity with
    | some index => entries.set index parsed
    | none => entries ++ [parsed]

/-- An entry that can be used: what a time limit there is is finite and positive. -/
def Entry.Usable : Entry φ → Prop
  | .mcpServer server =>
    B.isFinite server.timeoutSeconds = true ∧ B.nonPositive server.timeoutSeconds = false
  | .cronJob _ => True

/-- The new text lists what the old one does, but for the entry that was edited. -/
structure Exact (new : List UInt8) : Prop where
  entries : ∃ before after, loadEntries B limit surface (some old) = .ok before ∧
    loadEntries B limit surface (some new) = .ok after ∧
    (∀ parsed, (mode = .upsert → surface.parse B (.dict definition) = .ok parsed) →
      after = edited (identityOf B surface definition) parsed before mode) ∧
    (after.map Entry.identity).Nodup ∧ ∀ entry ∈ after, entry.Usable B
  fields : ∃ raw raw', readRegistry B limit surface.listKey (some old) = .ok raw ∧
    readRegistry B limit surface.listKey (some new) = .ok raw' ∧
    ∀ key, key ≠ text surface.listKey → raw'.lookup key = raw.lookup key

/-- What is asked of an edit. -/
structure KeepsRegistry : Prop where
  exact : ∀ report new, edit B limit surface definition old mode = .ok (report, new) →
    Exact B limit surface mode definition old new
  whole : ∀ content, MayHold (edit B limit surface definition old mode) old content →
    content = old ∨ ∃ report, edit B limit surface definition old mode = .ok (report, content)
  twice : mode = .upsert →
    ∀ report new, edit B limit surface definition old .upsert = .ok (report, new) →
      ∃ report', edit B limit surface definition new .upsert = .ok (report', new)
  undone : mode = .upsert → ∀ report new report' new',
    edit B limit surface definition old .upsert = .ok (report, new) → report.action = .created →
    edit B limit surface definition new .remove = .ok (report', new') →
      loadEntries B limit surface (some new') = loadEntries B limit surface (some old)

/-- The edit is accepted: the identity is valid, and the parser takes what is put. -/
def Accepted : Prop :=
  isId (identityOf B surface definition) = true ∧
    (mode = .upsert → ∃ parsed, surface.parse B (.dict definition) = .ok parsed)

/-! ## What the edit answers -/

variable {B limit surface mode definition old}

theorem mode_ofText : Mode.ofText (strip (text mode.name)) = .ok mode := by
  cases mode <;> rfl

theorem surface_ofText : Surface.ofText (strip (text surface.name)) = .ok surface := by
  cases surface <;> rfl

theorem validateId_eq_ok {value : Text} {u : Unit} :
    validateId value = .ok u ↔ isId value = true := by
  unfold validateId raised
  split
  · next h => exact ⟨fun _ => h, fun _ => rfl⟩
  · next h => exact ⟨nofun, fun hid => absurd hid h⟩

theorem dict_of_parse {item : Value φ} {entry : Entry φ} (h : surface.parse B item = .ok entry) :
    ∃ d, item = .dict d := by
  cases item with
  | dict d => exact ⟨d, rfl⟩
  | null | bool _ | int _ | float _ | str _ | list _ => cases surface <;> cases h

theorem existingIndex_returns {identity : Text} {items : List (Value φ)}
    (h : ∀ item ∈ items, ∃ d, item = .dict d) :
    ∃ index, existingIndex B surface identity items = .ok index := by
  induction items with
  | nil => exact ⟨none, rfl⟩
  | cons item rest ih =>
    obtain ⟨d, rfl⟩ := h item List.mem_cons_self
    unfold existingIndex
    split
    · exact ⟨some 0, rfl⟩
    · obtain ⟨index, hindex⟩ := ih fun item hitem => h item (List.mem_cons_of_mem _ hitem)
      rw [hindex]
      exact ⟨_, rfl⟩

theorem accepted_of_ok {report : Report} {new : List UInt8}
    (h : edit B limit surface definition old mode = .ok (report, new)) :
    Accepted B surface mode definition ∧ new ≠ [] := by
  unfold edit configureExtensionEntry at h
  rw [mode_ofText, ok_bind, surface_ofText, ok_bind] at h
  obtain ⟨raw, -, h⟩ := bind_eq_ok.mp h
  obtain ⟨entries, -, h⟩ := bind_eq_ok.mp h
  obtain ⟨_, hid, h⟩ := bind_eq_ok.mp h
  obtain ⟨existing, -, h⟩ := bind_eq_ok.mp h
  obtain ⟨⟨after, action⟩, hedited, h⟩ := bind_eq_ok.mp h
  cases h
  refine ⟨⟨validateId_eq_ok.mp hid, ?_⟩, List.append_ne_nil_of_right_ne_nil _ (by decide)⟩
  rintro rfl
  obtain ⟨parsed, hparsed, -⟩ := bind_eq_ok.mp hedited
  exact ⟨parsed, hparsed⟩

theorem returns_of_accepted {before : List (Entry φ)}
    (hload : loadEntries B limit surface (some old) = .ok before)
    (h : Accepted B surface mode definition) :
    ∃ report new, edit B limit surface definition old mode = .ok (report, new) := by
  obtain ⟨hid, hparses⟩ := h
  obtain ⟨raw, hraw, hload⟩ := bind_eq_ok.mp hload
  obtain ⟨entries, hentries, hload⟩ := bind_eq_ok.mp hload
  obtain ⟨existing, hexisting⟩ := @existingIndex_returns _ B surface
    (identityOf B surface definition) entries fun item hitem =>
      let ⟨_, _, hparsed⟩ := mapM_ok_left hload hitem
      dict_of_parse hparsed
  obtain ⟨⟨after, action⟩, hafter⟩ :
      ∃ result, editEntries B surface definition entries existing mode = .ok result := by
    cases mode with
    | remove => cases existing <;> exact ⟨_, rfl⟩
    | upsert =>
      obtain ⟨parsed, hparsed⟩ := hparses rfl
      unfold editEntries
      rw [hparsed, ok_bind]
      cases existing <;> exact ⟨_, rfl⟩
  unfold edit configureExtensionEntry
  rw [mode_ofText, ok_bind, surface_ofText, ok_bind, hraw, ok_bind, hentries, ok_bind]
  dsimp only
  rw [(validateId_eq_ok (u := ())).mpr hid, ok_bind, hexisting, ok_bind, hafter]
  exact ⟨_, _, rfl⟩

theorem ne_nil_of_load {before : List (Entry φ)}
    (hload : loadEntries B limit surface (some old) = .ok before) : old ≠ [] := by
  rintro rfl
  obtain ⟨raw, hraw, -⟩ := bind_eq_ok.mp hload
  have hempty : readRegistry B limit surface.listKey (some []) = .error .unreadable := rfl
  rw [hempty] at hraw
  cases hraw

theorem torn_of_accepted {before : List (Entry φ)}
    (hload : loadEntries B limit surface (some old) = .ok before)
    (h : Accepted B surface mode definition) :
    ¬ KeepsRegistry B limit surface mode definition old := by
  intro hkeeps
  obtain ⟨report, new, hok⟩ := returns_of_accepted hload h
  have hempty : MayHold (edit B limit surface definition old mode) old [] := by
    rw [hok]
    exact .inr List.nil_prefix
  rcases hkeeps.whole [] hempty with hold | ⟨report', hnew⟩
  · exact ne_nil_of_load hload hold.symm
  · exact (accepted_of_ok hnew).2 rfl

def sampleBuiltins : Builtins Int where
  literal _ := 8
  ofInt := some
  ofText _ := none
  isZero x := x == 0
  isFinite _ := true
  nonPositive x := x ≤ 0
  str _ := []
  dumps _ := "\x7b\n  \"servers\": []\n\x7d".toList.map fun c => c.toNat.toUInt8

def sampleRegistry : List UInt8 := "\x7b\"servers\": []\x7d".toList.map fun c => c.toNat.toUInt8

/-- A definition with a name only. -/
def named (name : String) : Dict Int := [(text "name", .str (text name))]

theorem sampleRegistry_loads : ∃ before,
    loadEntries sampleBuiltins 1000 .mcpServer (some sampleRegistry) = .ok before :=
  isOk_eq_true.mp (by decide +kernel)

end LocalMoe.Extensions
