import KeyDirectory.Listing.Format
import KeyDirectory.Proofs.Listing.Basic
import KeyDirectory.Proofs.Shell.Script
import KeyDirectory.Proofs.Text.Utf8

/-!
# A setup script is the same program for every listing

What a script is given from outside stands in one comment line and in the lines of a here-document.
No line of the document is the delimiter that ends it, because the text of a key holds a space and
the delimiter does not.  So a shell reads the same commands from every script, and gives the one
that writes the file exactly the texts of the keys.

* `delimiter_not_mem_lines`: the here-document is not ended by a key.
* `readLines?_scriptLines`: what a shell reads from the lines of a script.
* `script_contained`: the result.
-/

namespace KeyDirectory.Listing

variable {l : Listing}

/-- The command that writes the file.  Its line opens the here-document. -/
def writeCommand : String := "cat > \"$AK_FILE\" <<'AUTHORIZEDKEYS'"

/-- The commands of a script that installs the given lines. -/
def scriptCommands (keyLines : String) : List Shell.Command := [
  ⟨"set -e", none⟩,
  ⟨"SSH_DIR=\"$HOME/.ssh\"", none⟩,
  ⟨"AK_FILE=\"$SSH_DIR/authorized_keys\"", none⟩,
  ⟨"echo \"Creating and fixing permissions of '$SSH_DIR' ...\"", none⟩,
  ⟨"mkdir -p \"$SSH_DIR\"", none⟩,
  ⟨"chmod 700 \"$SSH_DIR\"", none⟩,
  ⟨"echo \"Writing '$AK_FILE' ...\"", none⟩,
  ⟨writeCommand, some keyLines⟩,
  ⟨"echo \"Fixing permissions of '$AK_FILE'\"", none⟩,
  ⟨"chmod 644 \"$AK_FILE\"", none⟩]

/-! ## Lines -/

/-- No key is taken for the end of the keys. -/
lemma delimiter_not_mem_lines (l : Listing) : scriptDelimiter ∉ l.lines := by
  intro h
  obtain ⟨key, -, hkey⟩ := List.mem_map.mp h
  have hspace := Key.count_space_canonical key
  rw [hkey] at hspace
  exact absurd hspace (by decide)

/-- The keys follow the command that writes them. -/
lemma scriptOpening_eq : scriptOpening = scriptOpening.dropLast ++ [writeCommand] := by
  decide +kernel

/-- Each line of a script is one line. -/
lemma newline_not_mem_scriptLines (h : '\n' ∉ l.identity.toList) {line : String}
    (hline : line ∈ l.scriptLines) : '\n' ∉ line.toList := by
  have hfixed : ∀ line ∈ "#!/bin/sh" :: (scriptOpening ++ scriptDelimiter :: scriptClosing),
      '\n' ∉ line.toList := by decide +kernel
  have hcomment : '\n' ∉ ("# authorized_keys.sh for " ++ l.summary).toList := by
    have hwords : '\n' ∉ "# authorized_keys.sh for ".toList := by decide +kernel
    simp only [String.toList_append, List.mem_append, not_or]
    exact ⟨hwords, newline_not_mem_summary h⟩
  simp only [scriptLines, List.mem_append, List.mem_cons, List.not_mem_nil, or_false] at hline
  rcases hline with ((((rfl | rfl) | hline) | hline) | rfl) | hline
  · exact hfixed _ (by simp)
  · exact hcomment
  · exact hfixed _ (by simp [hline])
  · exact newline_not_mem_lines hline
  · exact hfixed _ (by simp)
  · exact hfixed _ (by simp [hline])

/-! ## What a shell reads -/

/-- The two lines in front hold no command, whatever the second one says. -/
lemma readLines?_comments (s : List Char) :
    Shell.readLines? .command ["#!/bin/sh".toList, '#' :: s] = some [] := by
  simp [Shell.readLines?, Shell.readLine?_comment]

/-- The command that writes the keys reads them, and nothing else. -/
lemma readLines?_document (l : Listing) :
    Shell.readLines? .command
        (writeCommand.toList :: (l.lines.map String.toList ++ [scriptDelimiter.toList])) =
      some [⟨writeCommand, some l.keyLines⟩] := by
  have hline : Shell.readLine? writeCommand.toList =
      some (writeCommand.toList, some scriptDelimiter.toList) := by decide +kernel
  have hdelimiter : scriptDelimiter.toList ∉ l.lines.map String.toList := by
    intro h
    obtain ⟨line, hmem, hline⟩ := List.mem_map.mp h
    exact delimiter_not_mem_lines l (String.toList_injective hline ▸ hmem)
  have htext : Shell.documentText (l.lines.map String.toList) = l.keyLines := by
    rw [Shell.documentText, keyLines, ← Text.toList_join_lines, String.ofList_toList]
  rw [Shell.readLines?_hereDocument hline hdelimiter, htext, String.ofList_toList]

/-- A script reads as its commands. -/
theorem readLines?_scriptLines (l : Listing) :
    Shell.readLines? .command (l.scriptLines.map String.toList ++ [[]]) =
      some (scriptCommands l.keyLines) := by
  have hopening : Shell.readLines? .command (scriptOpening.dropLast.map String.toList) =
      some ((scriptCommands "").take 7) := by decide +kernel
  have hclosing : Shell.readLines? .command (scriptClosing.map String.toList ++ [[]]) =
      some ((scriptCommands "").drop 8) := by decide +kernel
  have hcomment : ("# authorized_keys.sh for " ++ l.summary).toList =
      '#' :: (" authorized_keys.sh for ".toList ++ l.summary.toList) := by
    have hwords : "# authorized_keys.sh for ".toList =
        '#' :: " authorized_keys.sh for ".toList := by decide +kernel
    rw [String.toList_append, hwords, List.cons_append]
  have hparts : l.scriptLines.map String.toList ++ [[]] =
      ["#!/bin/sh".toList, '#' :: (" authorized_keys.sh for ".toList ++ l.summary.toList)] ++
        (scriptOpening.dropLast.map String.toList ++
          ((writeCommand.toList :: (l.lines.map String.toList ++ [scriptDelimiter.toList])) ++
            (scriptClosing.map String.toList ++ [[]]))) := by
    rw [scriptLines, scriptOpening_eq, ← hcomment]
    simp
  rw [hparts, Shell.readLines?_append (readLines?_comments _), Shell.readLines?_append hopening,
    Shell.readLines?_append (readLines?_document l), hclosing]
  rfl

/-- **A setup script cannot be broken out of.**  The script for an identity that a path names has
these lines: two comment lines, of which the second one says who the script is for, from where and
from when; the lines of the opening, the last of which opens the here-document; the canonical texts
of the keys in their order, none of which is the delimiter; the delimiter; and the lines of the
closing.  A shell reads the same commands from it whatever it is given, and the command that writes
the file has the canonical texts, each with a line end, for its input. -/
theorem script_contained {path : String} {keyPath : KeyPath}
    (hpath : KeyPath.parse? path = some keyPath) (record : KeyRecord) (client : Client)
    (generated : Timestamp) :
    ∃ script,
      Text.Utf8.decodeText?
        (Format.script.render ⟨keyPath.identity, record, client, generated⟩).body = some script ∧
      Text.splitText '\n' script =
        ["#!/bin/sh", "# authorized_keys.sh for " ++ (keyPath.identity ++ " (" ++
          record.origin.text ++ "), generated " ++ generated.text)] ++
        scriptOpening ++ record.keys.map PublicKey.canonical ++ [scriptDelimiter] ++
        scriptClosing ++ [""] ∧
      scriptOpening.getLast? = some ("cat > \"$AK_FILE\" <<'" ++ scriptDelimiter ++ "'") ∧
      scriptDelimiter ∉ record.keys.map PublicKey.canonical ∧
      Shell.read? script = some (scriptCommands
        (String.join (record.keys.map fun key => key.canonical ++ "\n"))) := by
  let l : Listing := ⟨keyPath.identity, record, client, generated⟩
  have hlines : ∀ line ∈ l.scriptLines, '\n' ∉ line.toList := fun line hline =>
    newline_not_mem_scriptLines (KeyPath.newline_not_mem_identity hpath) hline
  have hsplit := Text.splitText_join_lines hlines
  refine ⟨String.join (l.scriptLines.map (· ++ "\n")), ?_, hsplit, rfl,
    delimiter_not_mem_lines l, ?_⟩
  · exact Text.Utf8.decodeText?_eq_some_iff.mpr rfl
  · have hpieces := Text.pieces_join_lines hlines
    have hkeys : String.join (record.keys.map fun key => key.canonical ++ "\n") = l.keyLines := by
      rw [keyLines, lines, List.map_map]
      rfl
    rw [Shell.read?, hpieces, readLines?_scriptLines, hkeys]

/-- A key whose owner chose the delimiter for the name of its algorithm. -/
def exampleTrap : PublicKey where
  material := .named "AUTHORIZEDKEYS@x" [0x0A]
  isWellFormed := by decide +kernel

/-- The key with the delimiter is a line of the file like any other. -/
theorem script_contained_trap :
    KeyPath.parse? "/alice.sh" = some ⟨"alice", "sh"⟩ ∧
      ∃ script,
        Text.Utf8.decodeText? (Format.script.render
          ⟨"alice", ⟨.remote, [exampleTrap]⟩, .human, .ofSeconds 0⟩).body = some script ∧
        Shell.read? script =
          some (scriptCommands "AUTHORIZEDKEYS@x AAAAEEFVVEhPUklaRURLRVlTQHgAAAABCg==\n") := by
  have hpath : KeyPath.parse? "/alice.sh" = some ⟨"alice", "sh"⟩ := by decide +kernel
  have hkeys : String.join ([exampleTrap].map fun key => key.canonical ++ "\n") =
      "AUTHORIZEDKEYS@x AAAAEEFVVEhPUklaRURLRVlTQHgAAAABCg==\n" := by
    simp only [PublicKey.canonical, PublicKey.wire, Key.Material.wire, Text.Utf8.encodeText_eq]
    decide +kernel
  obtain ⟨script, hbody, -, -, -, hcommands⟩ :=
    script_contained hpath ⟨.remote, [exampleTrap]⟩ .human (.ofSeconds 0)
  rw [hkeys] at hcommands
  exact ⟨hpath, script, hbody, hcommands⟩

end KeyDirectory.Listing
