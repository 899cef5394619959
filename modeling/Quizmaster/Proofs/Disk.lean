import Quizmaster.Disk

namespace Quizmaster

namespace Path

/-- A path that may name a file ends in a name that does not lead upwards. -/
theorem exists_names_concat {path : String} (h : namesDirectory path = false) :
    ∃ above last, names path = above ++ [last] ∧ last ≠ ".." := by
  have hne : pieces path ≠ [] := by
    simp [pieces, Text.split, List.splitOn_ne_nil]
  obtain ⟨before, last, hpieces⟩ : ∃ before last, pieces path = before ++ [last] :=
    ⟨_, _, (List.dropLast_concat_getLast hne).symm⟩
  rw [namesDirectory, hpieces, List.getLast?_concat] at h
  simp only [Bool.or_eq_false_iff, beq_eq_false_iff_ne] at h
  obtain ⟨⟨hempty, hdot⟩, hup⟩ := h
  refine ⟨before.filter fun name => name != "" && name != ".", last, ?_, hup⟩
  simp [names, hpieces, hempty, hdot]

end Path

namespace Disk

namespace Node

theorem find?_cons (entries : List (String × Node)) (name : String) (names : List String) :
    find? (.directory entries) (name :: names) = (entries.lookup name).bind (find? · names) := rfl

/-- An entry that is put into a directory is found there. -/
theorem find?_put_concat {root : Node} {above : List String} {entries : List (String × Node)}
    (h : root.find? above = some (.directory entries)) (name : String) (node : Node) :
    (root.put (above ++ [name]) node).find? (above ++ [name]) = some node := by
  induction above generalizing root with
  | nil =>
    cases root with
    | file content => cases h
    | directory entries =>
      rw [List.nil_append, put, find?_cons, Keyed.lookup_insert]
      simp [find?]
  | cons first above ih =>
    cases root with
    | file content => cases h
    | directory entries =>
      rw [find?_cons] at h
      obtain ⟨inner, hinner, habove⟩ := Option.bind_eq_some_iff.mp h
      rw [List.cons_append, put_cons hinner, find?_cons, Keyed.lookup_insert]
      simpa using ih habove

/-- Whether names lead to a directory. -/
def leadsToDirectory (root : Node) (names : List String) : Bool :=
  (root.find? names).any isDirectory

theorem leadsToDirectory_iff {root : Node} {names : List String} :
    root.leadsToDirectory names = true ↔
      ∃ entries, root.find? names = some (.directory entries) := by
  rw [leadsToDirectory, Option.any_eq_true_iff_get]
  cases root.find? names with
  | none => simp
  | some node => cases node <;> simp [isDirectory]

theorem leadsToDirectory_file (content : ByteArray) (names : List String) :
    (Node.file content).leadsToDirectory names = false := by
  cases names <;> rfl

theorem leadsToDirectory_cons (entries : List (String × Node)) (name : String)
    (names : List String) :
    (Node.directory entries).leadsToDirectory (name :: names) =
      (entries.lookup name).any (leadsToDirectory · names) := by
  rw [leadsToDirectory, find?_cons]
  cases entries.lookup name <;> rfl

/-- Where no directory gives way, all directories stay. -/
theorem leadsToDirectory_put {root node : Node} {place names : List String}
    (hplace : root.leadsToDirectory place = false) (h : root.leadsToDirectory names = true) :
    (root.put place node).leadsToDirectory names = true := by
  induction place generalizing root names with
  | nil =>
    cases root with
    | file content => simp [leadsToDirectory_file] at h
    | directory entries => simp [leadsToDirectory, find?, isDirectory] at hplace
  | cons first place ih =>
    cases root with
    | file content => simp [leadsToDirectory_file] at h
    | directory entries =>
      rw [leadsToDirectory_cons] at hplace
      cases hfirst : entries.lookup first with
      | none =>
        cases names with
        | nil => cases place <;> simp [put, hfirst, leadsToDirectory, find?, isDirectory]
        | cons name names =>
          rw [leadsToDirectory_cons] at h
          have hne : (name == first) = false := by
            refine beq_eq_false_iff_ne.mpr fun heq => ?_
            rw [heq, hfirst] at h
            cases h
          cases place with
          | nil => rwa [put, leadsToDirectory_cons, Keyed.lookup_insert, List.lookup_cons, hne]
          | cons second place => simpa [put, hfirst, leadsToDirectory_cons] using h
      | some inner =>
        rw [hfirst] at hplace
        rw [put_cons hfirst]
        cases names with
        | nil => rfl
        | cons name names =>
          rw [leadsToDirectory_cons] at h ⊢
          rw [Keyed.lookup_insert, List.lookup_cons]
          cases hname : name == first with
          | false => exact h
          | true =>
            rw [eq_of_beq hname, hfirst] at h
            exact ih hplace h

end Node

variable {disk after : Disk} {place target : List String} {path text : String}

/-- A step of the way goes from a directory to the one above it or to an entry. -/
theorem walk_cons_ok_iff {name : String} {names : List String} :
    disk.walk place (name :: names) = .ok target ↔ disk.root.node.leadsToDirectory place = true ∧
      disk.walk (if name == ".." then place.dropLast else place ++ [name]) names = .ok target := by
  rw [walk, Node.leadsToDirectory]
  cases disk.root.node.find? place with
  | none => simp
  | some node => cases node <;> simp [Node.isDirectory]

/-- A way that ends in a name leads to an entry of a directory. -/
theorem exists_directory_of_walk {names : List String} {last : String} (hlast : last ≠ "..")
    (h : disk.walk place (names ++ [last]) = .ok target) :
    ∃ above, disk.root.node.leadsToDirectory above = true ∧ target = above ++ [last] := by
  induction names generalizing place with
  | nil =>
    obtain ⟨habove, hend⟩ := walk_cons_ok_iff.mp h
    rw [beq_eq_false_iff_ne.mpr hlast] at hend
    cases hend
    exact ⟨place, habove, rfl⟩
  | cons name names ih => exact ih (walk_cons_ok_iff.mp h).2

/-- A way stays the same if every directory does. -/
theorem walk_of_directories {names : List String}
    (hkept : ∀ names, disk.root.node.leadsToDirectory names = true →
      after.root.node.leadsToDirectory names = true)
    (h : disk.walk place names = .ok target) : after.walk place names = .ok target := by
  induction names generalizing place with
  | nil => exact h
  | cons name names ih =>
    obtain ⟨hdirectory, hrest⟩ := walk_cons_ok_iff.mp h
    exact walk_cons_ok_iff.mpr ⟨hkept _ hdirectory, ih hrest⟩

/-- A path leads where its names lead, unless that is a file and the path can only name a
    directory. -/
theorem resolve_ok_iff : disk.resolve path = .ok target ↔
    path ≠ "" ∧ disk.locate (Path.isAbsolute path) (Path.names path) = .ok target ∧
      (Path.namesDirectory path = true →
        ∀ content, disk.root.node.find? target ≠ some (.file content)) := by
  unfold resolve
  by_cases hpath : path = ""
  · rw [if_pos (beq_iff_eq.mpr hpath)]
    constructor
    · intro h
      cases h
    · intro h
      exact absurd hpath h.1
  · rw [if_neg (by simpa using hpath)]
    cases hlocate : disk.locate (Path.isAbsolute path) (Path.names path) with
    | error fault =>
      constructor
      · intro h
        cases h
      · rintro ⟨-, h, -⟩
        cases h
    | ok place =>
      simp only [bind, Except.bind, ne_eq, hpath, not_false_eq_true, true_and, Except.ok.injEq]
      split
      · next content hfile =>
        split
        · next hnames =>
          constructor
          · intro h
            cases h
          · rintro ⟨rfl, h⟩
            exact absurd hfile (h hnames content)
        · next hnames =>
          constructor
          · intro h
            cases h
            exact ⟨rfl, fun h => absurd h hnames⟩
          · rintro ⟨rfl, -⟩
            rfl
      · next hfile =>
        constructor
        · intro h
          cases h
          exact ⟨rfl, fun _ => hfile⟩
        · rintro ⟨rfl, -⟩
          rfl

/-- A path leads to the node at the place that it names. -/
theorem node_ok_iff {node : Node} : disk.node path = .ok node ↔
    ∃ place, disk.resolve path = .ok place ∧ disk.root.node.find? place = some node := by
  unfold Disk.node
  cases disk.resolve path with
  | error fault =>
    constructor
    · intro h
      cases h
    · rintro ⟨place, h, -⟩
      cases h
  | ok place =>
    simp only [bind, Except.bind, Except.ok.injEq, exists_eq_left']
    cases disk.root.node.find? place with
    | none => simp [throw, throwThe, MonadExceptOf.throw]
    | some found => simp [pure, Except.pure]

/-- A file is written at the place of its path, where there was a file or nothing. -/
theorem writeBytes_ok {content : ByteArray} (h : disk.writeBytes path content = .ok after) :
    ∃ place, disk.resolve path = .ok place ∧ disk.root.node.leadsToDirectory place = false ∧
      Path.namesDirectory path = false ∧
      after = { disk with root := disk.root.put place (.file content) } := by
  unfold writeBytes at h
  cases hresolve : disk.resolve path with
  | error fault =>
    rw [hresolve] at h
    cases h
  | ok place =>
    rw [hresolve] at h
    simp only [bind, Except.bind] at h
    have hfits := (resolve_ok_iff.mp hresolve).2.2
    split at h
    · cases h
    · next old hold =>
      cases h
      refine ⟨place, rfl, by simp [Node.leadsToDirectory, hold, Node.isDirectory], ?_, rfl⟩
      exact Bool.eq_false_iff.mpr fun hnames => hfits hnames old hold
    · next hnone =>
      split at h
      · cases h
      · next hnames =>
        cases h
        refine ⟨place, rfl, by simp [Node.leadsToDirectory, hnone], ?_, rfl⟩
        exact Bool.eq_false_iff.mpr hnames

/-- A file that was written stands at its path. -/
theorem node_of_writeBytes {content : ByteArray} (h : disk.writeBytes path content = .ok after) :
    after.node path = .ok (.file content) := by
  obtain ⟨place, hresolve, hplace, hnames, rfl⟩ := writeBytes_ok h
  obtain ⟨hpath, hlocate, -⟩ := resolve_ok_iff.mp hresolve
  obtain ⟨before, last, hlast, hup⟩ := Path.exists_names_concat hnames
  refine node_ok_iff.mpr ⟨place, resolve_ok_iff.mpr ⟨hpath, ?_, ?_⟩, ?_⟩
  · exact walk_of_directories (fun names => Node.leadsToDirectory_put hplace) hlocate
  · simp [hnames]
  · rw [locate, hlast] at hlocate
    obtain ⟨above, habove, rfl⟩ := exists_directory_of_walk hup hlocate
    obtain ⟨entries, hentries⟩ := Node.leadsToDirectory_iff.mp habove
    exact Node.find?_put_concat hentries last _

theorem read_of_node {content : ByteArray} (h : disk.node path = .ok (.file content)) :
    disk.read path = decode content := by
  rw [read, h]
  rfl

theorem decode_toUTF8 (text : String) : decode text.toUTF8 = .ok text := by
  have hvalid : String.fromUTF8? text.toUTF8 = some text := dif_pos text.isValidUTF8
  rw [decode, hvalid]

/-- What was saved is read back. -/
theorem read_of_save (h : disk.save path text = (.ok (), after)) :
    after.contains path = true ∧ after.read path = .ok text := by
  unfold save at h
  split at h
  · cases h
  · split at h
    · next hwrite =>
      cases h
      have hnode := node_of_writeBytes hwrite
      refine ⟨by rw [contains, hnode]; rfl, ?_⟩
      rw [read_of_node hnode, decode_toUTF8]
    · cases h

end Disk

end Quizmaster
