import KeyDirectory.Key.File
import KeyDirectory.Listing.Format
import KeyDirectory.Proofs.Key.File
import KeyDirectory.Proofs.Listing.Basic
import KeyDirectory.Source.Folder

/-!
# A listing written as a file is read back

The file begins with a comment line, whose parts hold no line end, and each line after it is the
canonical text of a key.  Lines that are no key are passed over when a file is read, so the proof
has to say of each line what it contributes.

* `keyFileText_eq`: the lines of the file.
* `parseFile_keyFile`: the keys of the file.
* `parseFile_render`: the same of each format that writes the file, and of a folder that holds it.
-/

namespace KeyDirectory

/-- An identity from a path can be the name of a file. -/
lemma isFileName_of_parse? {path : String} {keyPath : KeyPath}
    (h : KeyPath.parse? path = some keyPath) : Folder.isFileName keyPath.identity = true := by
  obtain ⟨⟨hne, hall, -⟩, -⟩ := KeyPath.exists_text_of_parse? h
  have hother : ∀ s : String, (∃ c ∈ s.toList, KeyPath.isIdentityChar c = false) →
      keyPath.identity ≠ s := by
    rintro s ⟨c, hc, hfalse⟩ rfl
    rw [hall c hc] at hfalse
    exact absurd hfalse (by decide)
  have hslash : '/' ∉ keyPath.identity.toList := by
    intro hmem
    exact absurd (hall _ hmem) (by decide)
  have hempty : keyPath.identity ≠ "" := by
    intro hempty
    exact hne (by rw [hempty]; rfl)
  simp [Folder.isFileName, hempty, hother "." ⟨'.', by decide, by decide⟩,
    hother ".." ⟨'.', by decide, by decide⟩, hslash]

namespace Listing

variable {l : Listing}

/-! ## The lines of the file -/

/-- The comment line without the number sign. -/
def heading (l : Listing) : String :=
  " authorized_keys for " ++ l.summary

/-- The heading of a key file is one line. -/
lemma newline_not_mem_heading (h : '\n' ∉ l.identity.toList) : '\n' ∉ l.heading.toList := by
  have hwords : '\n' ∉ " authorized_keys for ".toList := by decide +kernel
  unfold heading
  simp only [String.toList_append, List.mem_append, not_or]
  exact ⟨hwords, newline_not_mem_summary h⟩

/-- The comment line and a line for each key, each with a line end. -/
lemma keyFileText_eq (l : Listing) :
    l.keyFileText = String.join ((("#" ++ l.heading) :: l.lines).map (· ++ "\n")) := by
  have hwords : "# authorized_keys for " = "#" ++ " authorized_keys for " := by decide +kernel
  unfold keyFileText heading keyLines
  simp only [hwords, List.map_cons, String.join_cons, String.append_assoc]

/-! ## The keys of the file -/

/-- The keys of a listing's file are those of the listing, in their order. -/
theorem parseFile_keyFile (h : '\n' ∉ l.identity.toList) :
    Key.parseFile l.keyFile.body = l.record.keys := by
  have hcomment : ("#" ++ l.heading).toList = '#' :: l.heading.toList := by
    rw [String.toList_append]
    rfl
  have hlines : ∀ line ∈ ("#" ++ l.heading) :: l.lines, '\n' ∉ line.toList := by
    rw [List.forall_mem_cons, hcomment]
    exact ⟨by simp [newline_not_mem_heading h], fun line hline => newline_not_mem_lines hline⟩
  have hlast : Key.ofFileLine? [] = none := rfl
  have hkeys : (Key.ofFileLine? ∘ String.toList) ∘ PublicKey.canonical = some :=
    funext Key.ofFileLine?_canonical
  rw [Key.parseFile, keyFile, Text.Utf8.encodeText_eq, Text.Utf8.decodeLossy_encode, keyFileText_eq,
    Text.pieces_join_lines hlines, List.map_cons, List.cons_append, List.filterMap_cons, hcomment,
    Key.ofFileLine?_comment, List.filterMap_append, List.filterMap_map, lines, List.filterMap_map,
    hkeys, List.filterMap_some]
  simp [hlast]

end Listing

/-- The only file of a tree. -/
lemma read_alice (contents : List UInt8) :
    (Files.Node.folder [("alice", .file contents)]).read (Files.join "/" "alice") =
      .ok contents := by
  have hpath : Files.join "/" "alice" = "/alice" := by decide +kernel
  have hsteps : Text.splitText '/' "/alice" = ["", "alice"] := by decide +kernel
  have hplain : '\x00' ∉ "/alice".toList ∧ "/alice".isEmpty = false ∧
      ¬ "/alice".utf8ByteSize > Files.maxPathSize := by decide +kernel
  have hsize : ¬ "alice".utf8ByteSize > Files.maxNameSize := by decide +kernel
  rw [hpath]
  simp [Files.Node.read, Files.Node.find, hsteps, hplain, Files.walk, hsize, Files.entry?]

/-- **What is served is read back.**  A listing for an identity that a path names, written as a file
or as what a command line tool gets at the bare path, holds exactly the keys of the listing in
their order.  A folder with that file under the identity answers the identity with the same keys. -/
theorem parseFile_render {path : String} {keyPath : KeyPath} {format : Format} {client : Client}
    (hpath : KeyPath.parse? path = some keyPath)
    (hformat : format = .keyFile ∨ ∃ suffix, format = .byClient suffix ∧ client = .machine)
    (record : KeyRecord) (generated : Timestamp) :
    Key.parseFile (format.render ⟨keyPath.identity, record, client, generated⟩).body = record.keys ∧
      ∀ root folder, root.read (Files.join folder keyPath.identity) =
          .ok (format.render ⟨keyPath.identity, record, client, generated⟩).body →
        Folder.get root folder keyPath.identity = .ok ⟨.folder, record.keys⟩ := by
  have hnewline := KeyPath.newline_not_mem_identity hpath
  have hbody : Key.parseFile
      (format.render ⟨keyPath.identity, record, client, generated⟩).body = record.keys := by
    rcases hformat with rfl | ⟨suffix, rfl, rfl⟩ <;> exact Listing.parseFile_keyFile hnewline
  constructor
  · exact hbody
  · intro root folder hread
    rw [Folder.get, if_pos (isFileName_of_parse? hpath)]
    simp only [hread, hbody]

/-- A key that was uploaded twice, served to a command line tool and put into a folder. -/
theorem parseFile_render_twice :
    let record : KeyRecord := ⟨.upload, [Key.exampleRsa, Key.exampleRsa]⟩
    let listing : Listing := ⟨"alice", record, .machine, .ofSeconds 0⟩
    let body := ((Format.byClient []).render listing).body
    KeyPath.parse? "/alice/" = some ⟨"alice", ""⟩ ∧ Key.parseFile body = record.keys ∧
      Folder.get (.folder [("alice", .file body)]) "/" "alice" = .ok ⟨.folder, record.keys⟩ := by
  intro record listing body
  have hpath : KeyPath.parse? "/alice/" = some ⟨"alice", ""⟩ := by decide +kernel
  have hformat : Format.byClient [] = .keyFile ∨
      ∃ suffix, Format.byClient [] = .byClient suffix ∧ Client.machine = .machine :=
    .inr ⟨[], rfl, rfl⟩
  obtain ⟨hbody, hfolder⟩ := parseFile_render hpath hformat record (.ofSeconds 0)
  exact ⟨hpath, hbody, hfolder _ "/" (read_alice body)⟩

end KeyDirectory
