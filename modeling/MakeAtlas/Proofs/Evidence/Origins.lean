import MakeAtlas.Proofs.Makefile.Flags
import MakeAtlas.Proofs.Makefile.Rules
import MakeAtlas.Proofs.Source.Reported
import MakeAtlas.Proofs.Workspace.ProjectFolder

/-!
# Where references come from

Every reference of a project comes from a file of the project: a file that was walked in the
project's folder, or the project's Makefile. If it names a line, it is one of the lines of a file,
which count from one; a compiler names no lines.

## Key results

- `line_pos_of_mem_includes`, `line_pos_of_mem_allFlags`, `line_pos_of_mem_rules`: lines count from
  one
- `exists_walked_of_mem_mentions`: what sources mention, whoever reads them
- `file_of_mem_makefileReferences`: what a Makefile mentions
-/

namespace MakeAtlas

open MakeAtlas.Text

/-! ## Lines -/

namespace Source

theorem line_pos_of_mem_includes {text : String} {i : Include} (h : i ∈ includes text) :
    0 < i.line := by
  obtain ⟨_, _, _, _, -, hline⟩ := exists_reports_of_mem_includes h
  omega

end Source

namespace Makefile

theorem line_pos_of_mem_allFlags {text : String} {flag : Flag} (h : flag ∈ allFlags text) :
    0 < flag.line := by
  obtain ⟨_, _, _, -, -, -, -, hline⟩ := exists_place_of_mem_allFlags h
  omega

theorem line_pos_of_mem_rules {text : String} {rule : Rule} (h : rule ∈ rules text) :
    0 < rule.line := by
  obtain ⟨_, _, _, -, -, hline⟩ := mem_rules_iff.1 h
  omega

end Makefile

/-! ## Files -/

namespace Disk

/-- What is looked at in a folder are the entries that are there, or nothing. -/
theorem entriesOf_eq_ok {disk : Disk} {folder : String} {children : List (String × Entry)}
    (h : disk.entriesOf folder = .ok children) :
    children = disk.childrenAt folder ∨ children = [] := by
  obtain ⟨-, rfl⟩ := entriesOf_eq_ok_iff.1 h
  split
  · exact Or.inl rfl
  · exact Or.inr rfl

end Disk

namespace Evidence

/-- What is found among the entries that are looked at in a folder is found in the folder. -/
theorem mem_filesOf_childrenAt {disk : Disk} {folder : String} {children : List (String × Entry)}
    (h : disk.entriesOf folder = .ok children) {scope : ScanScope} {extensions : List String}
    {f : Workspace.FoundFile} (hf : f ∈ filesOf scope extensions children) :
    f ∈ filesOf scope extensions (disk.childrenAt folder) := by
  rcases Disk.entriesOf_eq_ok h with rfl | rfl
  · exact hf
  · rw [filesOf_nil] at hf
    cases hf

/-- The sources that a compiler is asked for are files that were walked in the project's folder. -/
theorem exists_walked_of_mem_sources {disk : Disk} {scope : ScanScope} {compiler folder : String}
    {listing : Listing} (h : Listing.ofFolder disk scope compiler folder = .ok listing)
    {source : String} (hsource : source ∈ listing.sources) :
    ∃ f ∈ filesOf scope sourceExtensions (disk.childrenAt folder),
      source = Path.toForward f.path := by
  unfold Listing.ofFolder at h
  cases hmakefile : disk.readMakefile folder with
  | error e =>
    rw [hmakefile] at h
    cases h
  | ok makefile =>
    rw [hmakefile] at h
    cases hchildren : disk.entriesOf folder with
    | error e =>
      simp only [bind, Except.bind, hchildren] at h
      cases h
    | ok children =>
      simp only [bind, Except.bind, hchildren] at h
      cases h
      obtain ⟨f, hf, rfl⟩ := List.mem_map.1 hsource
      exact ⟨f, mem_filesOf_childrenAt hchildren hf, rfl⟩

end Evidence

namespace Site

/-- Whoever reads the sources of a project: what they mention is mentioned by a file that was walked
    in the project's folder, in one of its lines if a line is named. -/
theorem exists_walked_of_mem_mentions {site : Site} {scanner : IncludeScanner} {p : Project}
    {mentions : List Reference}
    (hmentions : scanner.mentions site.disk site.toolchain (site.folderOf p) p.root = .ok mentions)
    {r : Reference} (h : r ∈ mentions) :
    ∃ scope extensions, extensions ⊆ Evidence.lexicalExtensions ∧
      ∃ f ∈ Evidence.filesOf scope extensions (site.disk.childrenAt (site.folderOf p)),
        (r.file = Path.underRoot p.root f.path ∨
          r.file = Path.underRoot p.root (Path.toForward f.path)) ∧ ∀ n ∈ r.line, 0 < n := by
  cases scanner with
  | lexical scope =>
    simp only [IncludeScanner.mentions] at hmentions
    cases hchildren : site.disk.entriesOf (site.folderOf p) with
    | error e =>
      rw [hchildren] at hmentions
      cases hmentions
    | ok children =>
      rw [hchildren] at hmentions
      cases hmentions
      obtain ⟨f, hf, hr⟩ := List.mem_flatMap.1 h
      obtain ⟨i, hi, rfl⟩ := List.mem_map.1 hr
      have hline := Source.line_pos_of_mem_includes hi
      exact ⟨scope, _, List.Subset.refl _, f, Evidence.mem_filesOf_childrenAt hchildren hf,
        Or.inl rfl, fun n hn => Option.some.inj hn ▸ hline⟩
  | compiler scope command =>
    simp only [IncludeScanner.mentions] at hmentions
    cases hlisting : Evidence.Listing.ofFolder site.disk scope command (site.folderOf p) with
    | error e =>
      rw [hlisting] at hmentions
      cases hmentions
    | ok listing =>
      rw [hlisting] at hmentions
      cases hmentions
      obtain ⟨source, hsource, hr⟩ := List.mem_flatMap.1 h
      obtain ⟨header, -, rfl⟩ := List.mem_map.1 hr
      obtain ⟨f, hf, rfl⟩ := Evidence.exists_walked_of_mem_sources hlisting hsource
      -- a compiler names no lines
      exact ⟨scope, _, List.subset_append_left _ _, f, hf, Or.inr rfl, fun _ hn => by cases hn⟩

/-- What a project is found to mention in its sources, it does mention in them. -/
theorem exists_mentions_of_mem_sourceMentions {site : Site} {scanner : IncludeScanner} {p : Project}
    {r : Reference} (h : r ∈ site.sourceMentions scanner p) :
    ∃ mentions, scanner.mentions site.disk site.toolchain (site.folderOf p) p.root = .ok mentions ∧
      r ∈ mentions := by
  unfold sourceMentions at h
  split at h
  · next mentions _ hmentions => exact ⟨mentions, hmentions, h⟩
  · exact absurd h List.not_mem_nil

/-- What a Makefile mentions is mentioned in one of the lines of the Makefile. -/
theorem file_of_mem_makefileReferences {site : Site} {p : Project} {r : Reference}
    (h : r ∈ site.makefileReferences p) : r.file = makefileOf p ∧ ∀ n ∈ r.line, 0 < n := by
  rw [makefileReferences, ← Evidence.makefileReferences_eq] at h
  obtain ⟨-, hfile, number, hline, hmentions⟩ := Evidence.mem_makefileReferences_iff.1 h
  refine ⟨hfile, fun n hn => ?_⟩
  rw [hline] at hn
  cases hn
  rcases hmentions with hflag | ⟨rule, hrule, rfl, -⟩
  · exact Makefile.line_pos_of_mem_allFlags (mem_of_mem_distinctBy hflag)
  · exact Makefile.line_pos_of_mem_rules hrule

end Site

end MakeAtlas
