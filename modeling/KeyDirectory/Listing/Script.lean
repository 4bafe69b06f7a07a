import KeyDirectory.Listing.Basic

/-!
# Listings as setup scripts

A shell script that installs the keys.  The keys stand in a here-document whose delimiter is
quoted, so the shell takes their lines as they are; identity, source and time stand in one
comment line, and every command is fixed.
-/

namespace KeyDirectory.Listing

/-- The line that ends the here-document. -/
def scriptDelimiter : String := "AUTHORIZEDKEYS"

/-- The commands before the keys; the last one opens the here-document. -/
def scriptOpening : List String := [
  "# Sets up ~/.ssh/authorized_keys with the keys below.",
  "# Warning: this overwrites any existing keys.",
  "",
  "set -e",
  "",
  "SSH_DIR=\"$HOME/.ssh\"",
  "AK_FILE=\"$SSH_DIR/authorized_keys\"",
  "",
  "echo \"Creating and fixing permissions of '$SSH_DIR' ...\"",
  "mkdir -p \"$SSH_DIR\"",
  "chmod 700 \"$SSH_DIR\"",
  "echo \"Writing '$AK_FILE' ...\"",
  "cat > \"$AK_FILE\" <<'" ++ scriptDelimiter ++ "'"]

/-- The commands after the here-document. -/
def scriptClosing : List String := [
  "echo \"Fixing permissions of '$AK_FILE'\"",
  "chmod 644 \"$AK_FILE\""]

/-- The lines of the script. -/
def scriptLines (l : Listing) : List String :=
  ["#!/bin/sh", "# authorized_keys.sh for " ++ l.summary] ++ scriptOpening ++ l.lines ++
    [scriptDelimiter] ++ scriptClosing

/-- The listing as a setup script. -/
def script (l : Listing) : Rendered where
  contentType := "text/x-shellscript"
  fileName := some "authorized_keys.sh"
  body := Text.Utf8.encodeText (String.join (l.scriptLines.map (· ++ "\n")))

end KeyDirectory.Listing
