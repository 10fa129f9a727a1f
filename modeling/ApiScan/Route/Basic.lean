import ApiScan.Text.Basic

set_option autoImplicit false

/-! # Routes

What a scan of the route sources yields: a group for each router file or file-routing segment, with
its entries in order. -/

namespace ApiScan

/-- A request method. -/
inductive Method where
  | get
  | post
  | patch
  | put
  | delete
  | head
  | options
  deriving DecidableEq, Repr, Inhabited

namespace Method

/-- The name of a method in lower case, as it stands in calls and as a key of a path item. -/
def key : Method → Text
  | .get => "get".toList
  | .post => "post".toList
  | .patch => "patch".toList
  | .put => "put".toList
  | .delete => "delete".toList
  | .head => "head".toList
  | .options => "options".toList

/-- The name of a method in upper case. -/
def name : Method → Text
  | .get => "GET".toList
  | .post => "POST".toList
  | .patch => "PATCH".toList
  | .put => "PUT".toList
  | .delete => "DELETE".toList
  | .head => "HEAD".toList
  | .options => "OPTIONS".toList

/-- Every method. -/
def all : List Method := [.get, .post, .patch, .put, .delete, .head, .options]

/-- The method of an upper-case name. -/
def ofName? (name : Text) : Option Method := all.find? fun method => method.name = name

end Method

/-- A method and the path that it is served at. -/
structure RouteEntry where
  method : Method
  path : Text
  deriving DecidableEq, Repr

/-- The routes of one router file or file-routing segment. -/
structure RouteGroup where
  tag : Text
  source : Text
  base : Text := ['/']
  entries : List RouteEntry := []
  deriving DecidableEq, Repr

end ApiScan
