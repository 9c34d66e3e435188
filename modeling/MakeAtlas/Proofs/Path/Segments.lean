import MakeAtlas.Proofs.Path.Normal

/-!
# Folders above paths

Whether an absolute path lies in a folder is decided on their texts. On paths in normal form the
texts decide as the segments do: a folder is above a path exactly if its segments come first among
the path's, so `/w/B/sub` is not above `/w/B/subway`.

## Key results

- `isSettled_resolve`: what is seen from an anchored folder is an absolute path in normal form
- `isWithin_iff_isAbove`: on such paths the texts decide as the segments do
- `length_le_of_isAbove`, `eq_of_isAbove_of_length_eq`: a folder's text is shorter than that of
  every other path below it
-/

namespace MakeAtlas.Path

open MakeAtlas.Text

/-- The segments of a path: a nameless one for each slash that anchors it, then its steps. -/
def segments (path : String) : List (List Char) :=
  List.replicate (anchor path.toList).length [] ++ steps path.toList

/-- A folder is above a path, which may be the folder, if its segments come first among the
    path's. -/
def IsAbove (folder path : String) : Prop :=
  segments folder <+: segments path

instance (folder path : String) : Decidable (IsAbove folder path) :=
  inferInstanceAs (Decidable (_ <+: _))

/-- An absolute path in normal form: its text is its anchor with its steps. -/
structure IsSettled (path : String) : Prop where
  isAnchored : isAnchored path.toList = true
  text : path.toList = anchor path.toList ++ joinSteps (steps path.toList)

/-- What is seen from an anchored folder is an absolute path in normal form. -/
theorem isSettled_resolve {folder : String} (h : isAnchored folder.toList = true)
    (path : String) : IsSettled (resolve folder path) := by
  have hanchored := isAnchored_append_path h (forward path.toList)
  have hsteps := steps_normal (append folder.toList (forward path.toList))
  rw [hanchored] at hsteps
  constructor
  · rw [resolve, String.toList_ofList, isAnchored_congr (anchor_normal _), hanchored]
  · rw [resolve, String.toList_ofList, anchor_normal, hsteps, ← normal_of_isAnchored hanchored]

/-! ## Segments and texts -/

/-- The text of a path's segments with a slash after each of them. -/
private def slashed (path : String) : List Char :=
  joinSteps (segments path) ++ ['/']

/-- No segment holds a slash. -/
private theorem slash_not_mem_segment {path : String} {segment : List Char}
    (h : segment ∈ segments path) : '/' ∉ segment := by
  rw [segments, List.mem_append, List.mem_replicate] at h
  rcases h with ⟨_, rfl⟩ | hstep
  · simp
  · exact (isStep_of_mem_steps hstep).not_slash

/-- Pieces without slashes, written with slashes between them, are split again. -/
theorem splitOn_joinSteps {names : List (List Char)} (h : ∀ n ∈ names, '/' ∉ n)
    (hne : names ≠ []) : (joinSteps names).splitOn '/' = names := by
  rw [joinSteps_eq_intercalate, List.splitOn_intercalate '/' h hne]

/-- Written steps end with a character that is no slash: a nameless piece would follow it. -/
theorem getLast?_joinSteps {names : List (List Char)} (h : ∀ n ∈ names, IsStep n)
    (hne : names ≠ []) : ∃ c, (joinSteps names).getLast? = some c ∧ c ≠ '/' := by
  have hsplit := splitOn_joinSteps (fun n hn => (h n hn).not_slash) hne
  have hnamed : [] ∉ names := fun hnil => (h [] hnil).ne_nil rfl
  cases hlast : (joinSteps names).getLast? with
  | none =>
    rw [List.getLast?_eq_none_iff.1 hlast, List.splitOn_nil] at hsplit
    -- the empty text is one nameless piece
    exact absurd (hsplit ▸ List.mem_cons_self) hnamed
  | some c =>
    refine ⟨c, rfl, ?_⟩
    intro hc
    obtain ⟨init, hinit⟩ := List.getLast?_eq_some_iff.1 hlast
    rw [hinit, hc, List.splitOn_append_cons_self, List.splitOn_nil] at hsplit
    exact hnamed (hsplit ▸ List.mem_append_right _ List.mem_cons_self)

namespace IsSettled

variable {path folder : String}

/-- An absolute path is anchored by one slash or two. -/
private theorem anchor_cases (h : IsSettled path) :
    anchor path.toList = ['/'] ∨ anchor path.toList = ['/', '/'] := by
  rcases Path.anchor_cases path.toList with hnone | hsome
  · have hanchor := isEmpty_anchor path.toList
    rw [h.isAnchored, hnone] at hanchor
    exact nomatch hanchor
  · exact hsome

/-- An absolute path has a segment before all steps. -/
private theorem segments_ne_nil (h : IsSettled path) : segments path ≠ [] := by
  unfold segments
  rcases h.anchor_cases with hanchor | hanchor <;> rw [hanchor] <;> simp

/-- A path without steps ends with the slash after its last segment, any other has none there. -/
private theorem text_cases (h : IsSettled path) :
    (path.toList.getLast? = some '/' ∧ path.toList = slashed path) ∨
      (path.toList.getLast? ≠ some '/' ∧ path.toList ++ ['/'] = slashed path) := by
  by_cases hsteps : steps path.toList = []
  · left
    have htext := h.text
    unfold slashed segments
    rw [hsteps] at htext ⊢
    rcases h.anchor_cases with hanchor | hanchor <;> rw [hanchor] at htext ⊢ <;> rw [htext] <;>
      exact ⟨rfl, rfl⟩
  · right
    obtain ⟨c, hlast, hc⟩ := getLast?_joinSteps (fun n => isStep_of_mem_steps) hsteps
    constructor
    · rw [h.text, List.getLast?_append, hlast]
      simpa using hc
    · obtain ⟨first, rest, hnames⟩ := List.exists_cons_of_ne_nil hsteps
      conv => lhs; rw [h.text]
      unfold slashed segments
      rw [hnames]
      rcases h.anchor_cases with hanchor | hanchor <;> rw [hanchor] <;> rfl

/-- A path's steps are its named segments. -/
private theorem steps_eq_filter (path : String) :
    steps path.toList = (segments path).filter fun segment => !segment.isEmpty := by
  have hsteps : (steps path.toList).filter (fun segment => !segment.isEmpty) =
      steps path.toList := by
    rw [List.filter_eq_self]
    intro n hn
    simp [(isStep_of_mem_steps hn).ne_nil]
  rw [segments, List.filter_append, hsteps]
  simp

/-- Absolute paths in normal form with the same segments are the same. -/
theorem eq_of_segments_eq (hp : IsSettled path) (hf : IsSettled folder)
    (h : segments folder = segments path) : path = folder := by
  have hsteps : steps folder.toList = steps path.toList := by
    rw [steps_eq_filter, steps_eq_filter, h]
  have hlength : (anchor folder.toList).length = (anchor path.toList).length := by
    have := congrArg List.length h
    simp only [segments, hsteps, List.length_append, List.length_replicate] at this
    omega
  have hanchor : anchor folder.toList = anchor path.toList := by
    rcases hp.anchor_cases with hpa | hpa <;> rcases hf.anchor_cases with hfa | hfa <;>
      rw [hpa, hfa] at hlength ⊢ <;> exact nomatch hlength
  rw [← String.toList_inj, hp.text, hf.text, hanchor, hsteps]

end IsSettled

/-! ## Texts decide as segments do -/

/-- The text of some segments, with a slash after each, begins that of others exactly if the
    segments do. -/
private theorem slashed_prefix_iff {folder path : String} (hf : IsSettled folder)
    (hp : IsSettled path) : slashed folder <+: slashed path ↔ IsAbove folder path := by
  have hfolder := splitOn_joinSteps (fun _ => slash_not_mem_segment) hf.segments_ne_nil
  have hpath := splitOn_joinSteps (fun _ => slash_not_mem_segment) hp.segments_ne_nil
  unfold slashed IsAbove
  constructor
  · intro h
    obtain ⟨rest, hrest⟩ := h
    -- both texts are split at their slashes; the path's ends with a nameless piece
    have hsplit := congrArg (List.splitOn '/') hrest
    rw [List.append_assoc, List.singleton_append, List.splitOn_append_cons_self,
      List.splitOn_append_cons_self, hfolder, hpath, List.splitOn_nil] at hsplit
    have hbegins : segments folder <+: segments path ++ [[]] := ⟨_, hsplit⟩
    rcases List.prefix_concat_iff.1 hbegins with heq | habove
    · rw [heq] at hsplit
      exact absurd (List.append_right_eq_self.1 hsplit) (List.splitOn_ne_nil '/' rest)
    · exact habove
  · intro h
    obtain ⟨below, hbelow⟩ := h
    rw [← hbelow]
    cases below with
    | nil => simp only [List.append_nil, List.prefix_rfl]
    | cons next rest =>
      rw [joinSteps_append hf.segments_ne_nil (List.cons_ne_nil next rest)]
      exact ⟨joinSteps (next :: rest) ++ ['/'], by simp⟩

/-- The text that a path must begin with to lie below a folder. -/
private theorem start_eq_slashed {folder : String} (hf : IsSettled folder) :
    (if folder.toList.getLast? == some '/' then folder.toList else folder.toList ++ ['/']) =
      slashed folder := by
  rcases hf.text_cases with ⟨hlast, htext⟩ | ⟨hlast, htext⟩
  · rw [if_pos (by simp [hlast]), htext]
  · rw [if_neg (by simp [hlast]), htext]

/-- A folder's text begins every path that it holds. -/
theorem toList_prefix_of_isWithin {path folder : String} (h : isWithin path folder = true) :
    folder.toList <+: path.toList := by
  rw [isWithin, Bool.or_eq_true, beq_iff_eq, hasPrefix, List.isPrefixOf_iff_prefix] at h
  rcases h with rfl | h
  · exact List.prefix_refl _
  · refine List.IsPrefix.trans ?_ h
    split
    · exact List.prefix_refl _
    · exact List.prefix_append _ _

/-- An absolute path lies in a folder exactly if the folder's segments come first among the
    path's. -/
theorem isWithin_iff_isAbove {path folder : String} (hp : IsSettled path)
    (hf : IsSettled folder) : isWithin path folder = true ↔ IsAbove folder path := by
  rw [isWithin, start_eq_slashed hf, Bool.or_eq_true, beq_iff_eq, hasPrefix,
    List.isPrefixOf_iff_prefix]
  constructor
  · intro h
    rcases h with rfl | hbegins
    · exact List.prefix_refl _
    · rw [← slashed_prefix_iff hf hp]
      apply hbegins.trans
      rcases hp.text_cases with ⟨_, htext⟩ | ⟨_, htext⟩
      · exact htext ▸ List.prefix_rfl
      · rw [← htext]
        exact List.prefix_append _ _
  · intro habove
    have hbegins := (slashed_prefix_iff hf hp).2 habove
    rcases hp.text_cases with ⟨_, htext⟩ | ⟨_, htext⟩
    · rw [← htext] at hbegins
      exact Or.inr hbegins
    · -- the last slash is the path's only if the path is the folder
      rw [← htext, List.prefix_concat_iff, htext] at hbegins
      rcases hbegins with heq | hbegins
      · have hsegments : segments folder = segments path := by
          rw [← splitOn_joinSteps (fun _ => slash_not_mem_segment) hf.segments_ne_nil,
            ← splitOn_joinSteps (fun _ => slash_not_mem_segment) hp.segments_ne_nil,
            List.append_cancel_right heq]
        exact Or.inl (hp.eq_of_segments_eq hf hsegments)
      · exact Or.inr hbegins

/-! ## Folders above one path -/

/-- The text of a folder begins the texts of all paths below it. -/
private theorem toList_prefix_of_isAbove {path folder : String} (hp : IsSettled path)
    (hf : IsSettled folder) (h : IsAbove folder path) : folder.toList <+: path.toList := by
  have hwithin := (isWithin_iff_isAbove hp hf).2 h
  rw [isWithin, Bool.or_eq_true, beq_iff_eq, hasPrefix, List.isPrefixOf_iff_prefix] at hwithin
  rcases hwithin with rfl | hbegins
  · exact List.prefix_refl _
  · apply List.IsPrefix.trans _ hbegins
    split
    · exact List.prefix_refl _
    · exact List.prefix_append _ _

/-- A folder's text is no longer than that of a path below it. -/
theorem length_le_of_isAbove {path folder : String} (hp : IsSettled path) (hf : IsSettled folder)
    (h : IsAbove folder path) : folder.length ≤ path.length := by
  rw [← String.length_toList, ← String.length_toList]
  exact (toList_prefix_of_isAbove hp hf h).length_le

/-- Only the folder itself, of the paths below it, has a text as long as the folder's. -/
theorem eq_of_isAbove_of_length_eq {path folder : String} (hp : IsSettled path)
    (hf : IsSettled folder) (h : IsAbove folder path) (hlength : folder.length = path.length) :
    folder = path := by
  rw [← String.length_toList, ← String.length_toList] at hlength
  rw [← String.toList_inj]
  exact (toList_prefix_of_isAbove hp hf h).eq_of_length hlength

/-- A folder whose text only begins a segment of a path, in the place of its own last segment, is
    not above the path. -/
theorem not_isAbove_of_begins_segment {path folder : String} (hp : IsSettled path)
    (hf : IsSettled folder) {c : Char} {rest : List Char}
    (hpath : path.toList = folder.toList ++ c :: rest) (hc : c ≠ '/')
    (hlast : folder.toList.getLast? ≠ some '/') : ¬ IsAbove folder path := by
  intro habove
  have hwithin := (isWithin_iff_isAbove hp hf).2 habove
  rw [isWithin, if_neg (by simpa using hlast), Bool.or_eq_true, beq_iff_eq, hasPrefix,
    List.isPrefixOf_iff_prefix, hpath] at hwithin
  rcases hwithin with heq | hbegins
  · rw [heq] at hpath
    exact absurd (List.append_right_eq_self.1 hpath.symm) (List.cons_ne_nil c rest)
  · rw [List.prefix_append_right_inj, List.cons_prefix_cons] at hbegins
    exact hc hbegins.1.symm

end MakeAtlas.Path
