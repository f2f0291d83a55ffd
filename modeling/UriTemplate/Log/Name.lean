import UriTemplate.Text.Basic

/-!
The names of loggers.

Dots divide a name into parts.  A logger stands right below the nearest one, up its
name, that has been obtained, and below the root if there is none.  The character
before a dot is passed over together with the dot when the search goes on, so of
two dots side by side only the last is seen.
-/

namespace UriTemplate.Log

def packageName : Text := "rfc6570"

/-- The name of the root, above all loggers. -/
def rootName : Text := "root"

/-- The name of the logger that is obtained by a name; no name is that of the root. -/
def loggerName (name : Text) : Text :=
  if name.isEmpty then rootName else name

/-- Whether the logger with a name, given backwards, stands below the package logger. -/
def isBelowPackage (obtained : List Text) : Text → Bool
  | [] => false
  | [_] => false
  | last :: before :: rest =>
      if last ≠ .scalar '.' then isBelowPackage obtained (before :: rest)
      else
        let above := (before :: rest).reverse
        if above = packageName then true
        else if obtained.contains above then isBelowPackage obtained (before :: rest)
        else isBelowPackage obtained rest

/-- Whether a logger is the package logger or stands below it, given the names of the loggers
that have been obtained. -/
def inPackage (obtained : List Text) (name : Text) : Bool :=
  name = packageName || isBelowPackage obtained name.reverse

end UriTemplate.Log
