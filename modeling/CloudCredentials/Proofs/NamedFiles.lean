import CloudCredentials.Settings.ConfigFile

/-!
# The file of a name

What reading a name delivers, and how it changes with the files. All files can be given one content
without a change of which names denote files; and a name that holds a long enough run of letters
denotes none, since no entry has so long a name.
-/

namespace CloudCredentials

/-- A lookup among changed values finds the changed value. -/
theorem lookup_mapValues {α β γ : Type} [BEq α] {entries : List (α × β)} (f : β → γ) (key : α) :
    (entries.map fun entry => (entry.1, f entry.2)).lookup key =
      (entries.lookup key).map f := by
  induction entries with
  | nil => rfl
  | cons entry rest ih =>
    obtain ⟨own, value⟩ := entry
    simp only [List.map_cons, List.lookup_cons]
    cases key == own with
    | true => rfl
    | false => exact ih

namespace Files

variable {files : Files}

/-- The content of the file that a name denotes, if it denotes one. -/
def content? (files : Files) (name : String) : Option (List UInt8) := (files.read name).toOption

theorem isFile_iff_content? {name : String} :
    files.isFile name = true ↔ ∃ content, files.content? name = some content := by
  rw [isFile_iff_read_ok]
  unfold content?
  cases files.read name with
  | error fault => simp [Except.toOption]
  | ok content => exact iff_of_true ⟨content, rfl⟩ ⟨content, rfl⟩

theorem isFile_eq_false_iff {name : String} :
    files.isFile name = false ↔ files.content? name = none := by
  rw [← Bool.not_eq_true, isFile_iff_content?, Option.eq_none_iff_forall_ne_some, not_exists]

/-! ### Names that denote no file -/

/-- No entry has this name, or is below one that has it. -/
def Lacks (files : Files) (name : String) : Prop := ∀ entry ∈ files, name ∉ entry.1

theorem Lacks.entryAt {name : String} (h : files.Lacks name) {names : List String}
    (hm : name ∈ names) (hr : name ≠ rootName) : files.entryAt names = none := by
  have hroot : names ≠ [rootName] := by
    rintro rfl
    exact hr (List.mem_singleton.mp hm)
  have hnone : files.lookup names = none := by
    rw [List.lookup_eq_none_iff]
    intro entry he
    rw [bne_iff_ne]
    rintro rfl
    exact h entry he hm
  have hne : names.isEmpty = false := by
    cases names with
    | nil => cases hm
    | cons => rfl
  simp [Files.entryAt, hroot, hne, hnone]

/-- A walk over a name that the files lack does not arrive. -/
theorem Lacks.walk {name : String} (h : files.Lacks name) (hr : name ≠ rootName)
    (hup : name ≠ "..") {names : List String} (hm : name ∈ names) (place : Place) (entry : Entry) :
    files.walk place names ≠ .entry entry := by
  induction names generalizing place with
  | nil => cases hm
  | cons first rest ih =>
    unfold Files.walk
    split
    · simp
    · simp
    · rcases List.mem_cons.mp hm with rfl | hm
      · cases place with
        | outside => simp [hup]
        | inside above =>
          have hgone : files.at? (step (.inside above) name) = none := by
            simp only [step, if_pos hup, at?]
            exact h.entryAt (List.mem_append_right _ List.mem_cons_self) hr
          dsimp only
          cases rest with
          | nil => simp [Files.walk, hgone]
          | cons => simp [Files.walk, hgone]
      · cases place with
        | outside =>
          dsimp only
          split
          · exact ih hm .outside
          · simp
        | inside above => exact ih hm _

theorem Lacks.content? {piece : String} (h : files.Lacks piece) (hn : Path.isName piece = true)
    (hr : piece ≠ rootName) (hup : piece ≠ "..") {name : String}
    (hm : piece ∈ Path.pieces name) : files.content? name = none := by
  rw [← isFile_eq_false_iff]
  have hmem : piece ∈ (Path.ofText name).names := List.mem_filter.mpr ⟨hm, hn⟩
  unfold isFile find
  split
  · rename_i content hf
    split at hf
    · cases hf
    · dsimp only at hf
      split at hf
      · rename_i hw
        exact absurd hw (h.walk hr hup hmem _ _)
      · exact absurd hf (h.walk hr hup hmem _ _)
  · rfl

/-- A run of characters without slashes is in one piece of a text. -/
theorem exists_piece_of_run {run cs : List Char} (hrun : '/' ∉ run) (h : run <:+: cs) :
    ∃ piece ∈ cs.splitOn '/', run <:+: piece := by
  obtain ⟨before, after, rfl⟩ := h
  have hfirst : ∃ rest others, (run ++ after).splitOn '/' = (run ++ rest) :: others := by
    induction run with
    | nil =>
      obtain ⟨rest, others, hs⟩ := List.exists_cons_of_ne_nil (List.splitOn_ne_nil '/' after)
      exact ⟨rest, others, hs⟩
    | cons c run ih =>
      obtain ⟨rest, others, hs⟩ := ih fun h => hrun (List.mem_cons_of_mem _ h)
      have hc : (c == '/') = false := by
        rw [beq_eq_false_iff_ne]
        exact fun h => hrun (h ▸ List.mem_cons_self)
      refine ⟨rest, others, ?_⟩
      rw [List.cons_append, List.splitOn_cons_eq_if_modifyHead, hc, hs]
      rfl
  rw [List.append_assoc]
  induction before with
  | nil =>
    obtain ⟨rest, others, hs⟩ := hfirst
    refine ⟨run ++ rest, ?_, (List.prefix_append run rest).isInfix⟩
    rw [List.nil_append, hs]
    exact List.mem_cons_self
  | cons c before ih =>
    obtain ⟨piece, hp, hin⟩ := ih
    rw [List.cons_append, List.splitOn_cons_eq_if_modifyHead]
    split
    · exact ⟨piece, List.mem_cons_of_mem _ hp, hin⟩
    · cases hs : (before ++ (run ++ after)).splitOn '/' with
      | nil => exact absurd hs (List.splitOn_ne_nil _ _)
      | cons first others =>
        rw [hs] at hp
        rcases List.mem_cons.mp hp with rfl | hp
        · exact ⟨c :: piece, List.mem_cons_self, hin.trans (List.suffix_cons c piece).isInfix⟩
        · exact ⟨piece, List.mem_cons_of_mem _ hp, hin⟩

/-- A run of letters that is longer than all names of the files. -/
def overlong (files : Files) : List Char :=
  List.replicate ((files.flatMap fun entry => entry.1.map String.length).max?.getD 0 + 1) 'x'

theorem mem_overlong {c : Char} : c ∈ files.overlong ↔ c = 'x' := by
  simp [overlong]

theorem lacks_of_overlong {name : String} (h : files.overlong <:+: name.toList) :
    files.Lacks name := by
  intro entry he hn
  have hbound : name.length ≤ (files.flatMap fun entry => entry.1.map String.length).max?.getD 0 :=
    List.le_max?_getD_of_mem (List.mem_flatMap.mpr ⟨entry, he, List.mem_map_of_mem hn⟩)
  have hlength : files.overlong.length ≤ name.length := by
    rw [← String.length_toList]
    exact h.length_le
  simp only [overlong, List.length_replicate] at hlength
  omega

theorem content?_of_overlong {name : String} (h : files.overlong <:+: name.toList) :
    files.content? name = none := by
  have hslash : '/' ∉ files.overlong := fun hm => absurd (mem_overlong.mp hm) (by decide)
  obtain ⟨piece, hp, hin⟩ := exists_piece_of_run hslash h
  have hletter : 'x' ∈ piece := hin.subset (mem_overlong.mpr rfl)
  have hne (text : String) (ht : 'x' ∉ text.toList) : String.ofList piece ≠ text := by
    rintro rfl
    rw [String.toList_ofList] at ht
    exact ht hletter
  have hlacks : files.Lacks (String.ofList piece) :=
    lacks_of_overlong (by rwa [String.toList_ofList])
  refine hlacks.content? ?_ (hne _ (by decide)) (hne _ (by decide)) (List.mem_map_of_mem hp)
  simp [Path.isName, hne "" (by decide), hne "." (by decide)]

end Files

/-! ### Files with one content -/

/-- The entry with another content, if it is a file. -/
def Entry.withContent (content : List UInt8) : Entry → Entry
  | .file _ => .file content
  | .directory => .directory

def Files.Found.withContent (content : List UInt8) : Files.Found → Files.Found
  | .entry e => .entry (e.withContent content)
  | .missing => .missing
  | .notDirectory => .notDirectory

namespace Files

/-- The files with one content in all of them. -/
def filled (content : List UInt8) (files : Files) : Files :=
  files.map fun entry => (entry.1, entry.2.withContent content)

variable {files : Files} {content : List UInt8}

theorem lookup_filled (names : List String) :
    (files.filled content).lookup names =
      (files.lookup names).map (Entry.withContent content) :=
  lookup_mapValues (Entry.withContent content) names

theorem at?_filled (place : Place) :
    (files.filled content).at? place = (files.at? place).map (Entry.withContent content) := by
  cases place with
  | outside => rfl
  | inside names =>
    simp only [at?, entryAt, lookup_filled]
    split
    · rfl
    · rfl

theorem walk_filled (place : Place) (names : List String) :
    (files.filled content).walk place names = (files.walk place names).withContent content := by
  induction names generalizing place with
  | nil =>
    simp only [walk, at?_filled]
    cases files.at? place with
    | none => rfl
    | some entry => rfl
  | cons name rest ih =>
    simp only [walk, at?_filled]
    cases files.at? place with
    | none => rfl
    | some entry =>
      cases entry with
      | file _ => rfl
      | directory =>
        cases place with
        | inside _ => exact ih _
        | outside =>
          simp only [Option.map_some, Entry.withContent]
          split
          · exact ih _
          · rfl

theorem find_filled (name : String) :
    (files.filled content).find name = (files.find name).withContent content := by
  unfold find
  split
  · rfl
  · simp only [walk_filled]
    cases files.walk _ _ with
    | missing => rfl
    | notDirectory => rfl
    | entry entry =>
      cases entry with
      | directory => rfl
      | file _ =>
        simp only [Found.withContent, Entry.withContent]
        split
        · rfl
        · rfl

theorem content?_filled (name : String) :
    (files.filled content).content? name = (files.content? name).map fun _ => content := by
  simp only [content?, read, find_filled]
  cases files.find name with
  | missing => rfl
  | notDirectory => rfl
  | entry entry =>
    cases entry with
    | directory => rfl
    | file _ => rfl

end Files

end CloudCredentials
