import UriTemplate.Text.Basic

/-!
Bindings of names.

Bindings keep the order in which names were first bound; binding a name again
changes what it is bound to and not its place.
-/

namespace UriTemplate

/-- Names with what they are bound to, in order. -/
abbrev Bindings (Content : Type) := List (Text × Content)

namespace Bindings

variable {Content : Type}

/-- Binds a name: in its place if it is bound already, at the end otherwise. -/
def insert (name : Text) (content : Content) : Bindings Content → Bindings Content
  | [] => [(name, content)]
  | (other, old) :: rest =>
      if other = name then (other, content) :: rest
      else (other, old) :: insert name content rest

/-- Binds names on top of what is bound already. -/
def overlay (bindings : Bindings Content) : Bindings Content → Bindings Content
  | [] => bindings
  | (name, content) :: rest => overlay (bindings.insert name content) rest

def ofList (entries : List (Text × Content)) : Bindings Content :=
  overlay [] entries

def find? (name : Text) : Bindings Content → Option Content
  | [] => none
  | (other, content) :: rest => if other = name then some content else find? name rest

def names (bindings : Bindings Content) : List Text :=
  bindings.map Prod.fst

end Bindings

end UriTemplate
