import NomadDriverCh.Foundation.Base64
import NomadDriverCh.Domain

/-!
# The environment hand-off file

`envFileFromMap` writes the task environment as `export KEY=VALUE` lines, sorted by key
and joined with newlines, base64-encoded into a file for the boot-configuration volume;
`upsertFile` puts that file into the domain's file list, replacing the first one with the
same path.  Its list of paths is the old one, with the file's path appended when it is new,
so distinct paths stay distinct; and a second call with the same file changes nothing.

The format has no escaping.  Reading a file back as the hand-off format describes it
(`readEnvFile`) recovers the map exactly when no key holds `=` or a newline and no value
holds a newline; a value with a newline splits its line in two.
-/

namespace NomadDriverCh

open Domain

def envFilePath : GoString := lit "/etc/profile.d/virt.sh"

def envFilePerms : GoString := lit "777"

/-- `fmt.Sprintf("export %s=%s", k, env[k])`. -/
def exportLine (env : GoMap GoString) (k : GoString) : GoString :=
  lit "export " ++ k ++ lit "=" ++ env.get [] k

def envFileFromMap (env : GoMap GoString) : File × Bool :=
  if env.entries.length = 0 then (⟨[], [], [], []⟩, false)
  else
    let lines := (sortStrings env.keys).map (exportLine env)
    (⟨envFilePath, envFilePerms, lit "b64", Base64.encodeToString (joinWith 10 lines)⟩, true)

def upsertFile : List File → File → List File
  | [], file => [file]
  | f :: files, file => if f.path = file.path then file :: files else f :: upsertFile files file

theorem mem_upsertFile (files : List File) (file : File) : file ∈ upsertFile files file := by
  induction files with
  | nil => exact List.mem_singleton_self file
  | cons f files ih =>
    unfold upsertFile
    split_ifs
    · exact List.mem_cons_self _ _
    · exact List.mem_cons_of_mem f ih

theorem map_path_upsertFile (files : List File) (file : File) :
    (upsertFile files file).map File.path =
      if file.path ∈ files.map File.path then files.map File.path
      else files.map File.path ++ [file.path] := by
  induction files with
  | nil => rfl
  | cons f files ih =>
    by_cases hf : f.path = file.path
    · simp [upsertFile, hf]
    · by_cases hm : file.path ∈ files.map File.path <;>
        simp [upsertFile, hf, Ne.symm hf, ih, hm]

theorem nodup_upsertFile {files : List File} (file : File) (h : (files.map File.path).Nodup) :
    ((upsertFile files file).map File.path).Nodup := by
  rw [map_path_upsertFile]
  split_ifs with hm
  · exact h
  · exact List.concat_eq_append _ _ ▸ h.concat hm

theorem filter_upsertFile_ne (files : List File) (file : File) :
    (upsertFile files file).filter (fun g => g.path ≠ file.path) =
      files.filter (fun g => g.path ≠ file.path) := by
  induction files with
  | nil => simp [upsertFile]
  | cons f files ih =>
    by_cases hf : f.path = file.path
    · simp [upsertFile, hf]
    · simp only [upsertFile, if_neg hf, List.filter_cons, ih]

theorem filter_upsertFile_eq (files : List File) (file : File) :
    (upsertFile files file).filter (fun g => g.path = file.path) =
      file :: (files.filter (fun g => g.path = file.path)).tail := by
  induction files with
  | nil => simp [upsertFile]
  | cons f files ih => by_cases hf : f.path = file.path <;> simp [upsertFile, hf, ih]

theorem tail_filter_path_eq {files : List File} (h : (files.map File.path).Nodup)
    (p : GoString) : (files.filter (fun g => g.path = p)).tail = [] := by
  induction files with
  | nil => rfl
  | cons f files ih =>
    rw [List.map_cons, List.nodup_cons, List.mem_map] at h
    by_cases hf : f.path = p
    · rw [List.filter_cons_of_pos (by simpa using hf), List.tail_cons, List.filter_eq_nil_iff]
      exact fun g hg hgp => h.1 ⟨g, hg, (of_decide_eq_true hgp).trans hf.symm⟩
    · rw [List.filter_cons_of_neg (by simpa using hf)]
      exact ih h.2

theorem upsertFile_idempotent (files : List File) (file : File) :
    upsertFile (upsertFile files file) file = upsertFile files file := by
  induction files with
  | nil => simp [upsertFile]
  | cons f files ih => by_cases hf : f.path = file.path <;> simp [upsertFile, hf, ih]

/-- With distinct paths among the domain's files, `upsertFile` keeps them distinct, holds
the file, keeps every file of another path in order and nothing else, and a second call
with the same file changes nothing. -/
theorem upsertFile_replaces_by_path (files : List File) (file : File)
    (h : (files.map File.path).Nodup) :
    ((upsertFile files file).map File.path).Nodup ∧ file ∈ upsertFile files file ∧
      (upsertFile files file).filter (fun g => g.path ≠ file.path) =
        files.filter (fun g => g.path ≠ file.path) ∧
      (upsertFile files file).filter (fun g => g.path = file.path) = [file] ∧
      upsertFile (upsertFile files file) file = upsertFile files file :=
  ⟨nodup_upsertFile file h, mem_upsertFile files file, filter_upsertFile_ne files file,
    by rw [filter_upsertFile_eq, tail_filter_path_eq h], upsertFile_idempotent files file⟩

/-- A domain holding `/etc/hosts` and an older hand-off file: the new hand-off file takes
the old one's place. -/
theorem upsertFile_replaces_by_path_handoff :
    ([(⟨lit "/etc/hosts", [], [], []⟩ : File), ⟨envFilePath, [], [], []⟩].map File.path).Nodup ∧
    upsertFile [⟨lit "/etc/hosts", [], [], []⟩, ⟨envFilePath, [], [], []⟩]
        ⟨envFilePath, envFilePerms, lit "b64", lit "ZXhwb3J0"⟩ =
      [⟨lit "/etc/hosts", [], [], []⟩, ⟨envFilePath, envFilePerms, lit "b64", lit "ZXhwb3J0"⟩] ∧
    ((upsertFile [⟨lit "/etc/hosts", [], [], []⟩, ⟨envFilePath, [], [], []⟩]
        ⟨envFilePath, envFilePerms, lit "b64", lit "ZXhwb3J0"⟩).map File.path).Nodup ∧
      ⟨envFilePath, envFilePerms, lit "b64", lit "ZXhwb3J0"⟩ ∈
        upsertFile [⟨lit "/etc/hosts", [], [], []⟩, ⟨envFilePath, [], [], []⟩]
          ⟨envFilePath, envFilePerms, lit "b64", lit "ZXhwb3J0"⟩ ∧
      (upsertFile [⟨lit "/etc/hosts", [], [], []⟩, ⟨envFilePath, [], [], []⟩]
          ⟨envFilePath, envFilePerms, lit "b64", lit "ZXhwb3J0"⟩).filter
          (fun g => g.path ≠ envFilePath) =
        [(⟨lit "/etc/hosts", [], [], []⟩ : File), ⟨envFilePath, [], [], []⟩].filter
          (fun g => g.path ≠ envFilePath) ∧
      (upsertFile [⟨lit "/etc/hosts", [], [], []⟩, ⟨envFilePath, [], [], []⟩]
          ⟨envFilePath, envFilePerms, lit "b64", lit "ZXhwb3J0"⟩).filter
          (fun g => g.path = envFilePath) =
        [⟨envFilePath, envFilePerms, lit "b64", lit "ZXhwb3J0"⟩] ∧
      upsertFile (upsertFile [⟨lit "/etc/hosts", [], [], []⟩, ⟨envFilePath, [], [], []⟩]
          ⟨envFilePath, envFilePerms, lit "b64", lit "ZXhwb3J0"⟩)
          ⟨envFilePath, envFilePerms, lit "b64", lit "ZXhwb3J0"⟩ =
        upsertFile [⟨lit "/etc/hosts", [], [], []⟩, ⟨envFilePath, [], [], []⟩]
          ⟨envFilePath, envFilePerms, lit "b64", lit "ZXhwb3J0"⟩ :=
  have h : ([(⟨lit "/etc/hosts", [], [], []⟩ : File), ⟨envFilePath, [], [], []⟩].map
      File.path).Nodup := by decide
  ⟨h, by decide, upsertFile_replaces_by_path _ _ h⟩

/-! ## Reading the file back -/

/-- One line read as the hand-off format describes it: the text `export `, a key running
to the first `=`, then the value. -/
def parseExportLine (line : GoString) : Option (GoString × GoString) :=
  if line.take 7 = lit "export " then splitFirst 61 (line.drop 7) else none

def readEnvFile (content : GoString) : Option (List (GoString × GoString)) :=
  (Base64.decodeString content).bind fun text => (splitAt 10 text).mapM parseExportLine

theorem parseExportLine_exportLine {env : GoMap GoString} {k : GoString} (hk : 61 ∉ k) :
    parseExportLine (exportLine env k) = some (k, env.get [] k) := by
  have hlen : (lit "export ").length = 7 := rfl
  simp only [parseExportLine, exportLine, List.append_assoc, List.take_left' hlen,
    List.drop_left' hlen, if_true]
  exact splitFirst_append hk _

theorem keys_map_dlookup {l : List (Sigma fun _ : GoString => GoString)} (h : l.NodupKeys) :
    l.keys.map (fun k => (k, (l.dlookup k).getD [])) = l.map fun e => (e.1, e.2) := by
  induction l with
  | nil => rfl
  | cons e l ih =>
      obtain ⟨k, v⟩ := e
      obtain ⟨hk, hl⟩ := List.nodupKeys_cons.mp h
      simp only [List.keys_cons, List.map_cons, List.dlookup_cons_eq, Option.getD_some,
        List.cons.injEq, true_and, ← ih hl]
      refine List.map_congr_left fun k' hk' => ?_
      rw [List.dlookup_cons_ne _ _ (ne_of_mem_of_not_mem hk' hk)]

theorem decodeString_envFileFromMap {env : GoMap GoString} (hne : env.entries ≠ []) :
    (envFileFromMap env).2 = true ∧ Base64.decodeString (envFileFromMap env).1.content =
      some (joinWith 10 ((sortStrings env.keys).map (exportLine env))) := by
  have hlen : env.entries.length ≠ 0 := by simpa using hne
  simp only [envFileFromMap, hlen, if_false, Base64.decodeString_encodeToString, and_self]

theorem exportLine_mem_lines {env : GoMap GoString} {k : GoString} (hk : k ∈ env) :
    exportLine env k ∈ (sortStrings env.keys).map (exportLine env) :=
  List.mem_map_of_mem _ ((sortStrings_perm _).mem_iff.mpr (AList.mem_keys.mp hk))

theorem readEnvFile_envFileFromMap {env : GoMap GoString} (hne : env.entries ≠ [])
    (hkeys : ∀ k ∈ env.keys, 61 ∉ k ∧ 10 ∉ k)
    (hvals : ∀ k ∈ env.keys, 10 ∉ env.get [] k) :
    readEnvFile (envFileFromMap env).1.content =
      some ((sortStrings env.keys).map fun k => (k, env.get [] k)) := by
  have hmem : ∀ k ∈ sortStrings env.keys, k ∈ env.keys :=
    fun k hk => (sortStrings_perm _).subset hk
  have hkeys_ne : sortStrings env.keys ≠ [] := by
    intro h
    have := (sortStrings_perm env.keys).length_eq
    simp only [h, List.length_nil] at this
    exact hne (by simpa [AList.keys, List.keys] using this.symm)
  simp only [readEnvFile, (decodeString_envFileFromMap hne).2, Option.some_bind]
  rw [splitAt_joinWith]
  · exact mapM_map_of_forall fun k hk => parseExportLine_exportLine (hkeys k (hmem k hk)).1
  · simp only [List.mem_map]
    rintro _ ⟨k, hk, rfl⟩
    simp only [exportLine, List.mem_append, not_or]
    exact ⟨⟨⟨by decide, (hkeys k (hmem k hk)).2⟩, by decide⟩, hvals k (hmem k hk)⟩
  · simpa using hkeys_ne

/-- The file reads back as the map, one line per entry with keys in strictly increasing
order, whenever no key holds `=` or a newline and no value holds a newline. -/
theorem envFileFromMap_reads_back {env : GoMap GoString} (hne : env.entries ≠ [])
    (hkeys : ∀ k ∈ env.keys, 61 ∉ k ∧ 10 ∉ k) (hvals : ∀ k ∈ env.keys, 10 ∉ env.get [] k) :
    ∃ kvs, readEnvFile (envFileFromMap env).1.content = some kvs ∧
      kvs.Perm (env.entries.map fun e => (e.1, e.2)) ∧
      (kvs.map Prod.fst).Pairwise fun a b => goLess a b := by
  refine ⟨_, readEnvFile_envFileFromMap hne hkeys hvals, ?_, ?_⟩
  · rw [← keys_map_dlookup env.nodupKeys]
    exact (sortStrings_perm _).map _
  · simpa [List.map_map, Function.comp_def] using sortStrings_increasing env.keys_nodup

theorem envFileFromMap_reads_back_two_entries :
    let env : GoMap GoString :=
      ((∅ : GoMap GoString).insert (lit "B") (lit "value2")).insert (lit "A") (lit "value1")
    (env.entries ≠ [] ∧ (∀ k ∈ env.keys, 61 ∉ k ∧ 10 ∉ k) ∧
      ∀ k ∈ env.keys, 10 ∉ env.get [] k) ∧
    ∃ kvs, readEnvFile (envFileFromMap env).1.content = some kvs ∧
      kvs.Perm (env.entries.map fun e => (e.1, e.2)) ∧
      (kvs.map Prod.fst).Pairwise fun a b => goLess a b :=
  ⟨⟨by decide, by decide, by decide⟩,
    envFileFromMap_reads_back (by decide) (by decide) (by decide)⟩

/-- A value holding a newline splits its line in two, and the second half is no
`export` line: the file does not read back. -/
theorem envFileFromMap_newline_value :
    let env : GoMap GoString := (∅ : GoMap GoString).insert (lit "A") (lit "x\ny")
    env.entries ≠ [] ∧ readEnvFile (envFileFromMap env).1.content = none := by
  decide

end NomadDriverCh
