import ApiScan.Text.Basic

set_option autoImplicit false

/-! # Kinds of projects -/

namespace ApiScan.Project

/-- How a project serves its routes. -/
inductive Kind where
  /-- Router files that a main file mounts. -/
  | express
  /-- Files whose places are their routes. -/
  | nextjs
  deriving DecidableEq, Repr, Inhabited

/-- The name of the library that a kind of project depends on. -/
def Kind.name : Kind → Text
  | .express => "express".toList
  | .nextjs => "next".toList

/-! ## Where things are unless it is said -/

/-- The main file of a project. -/
def defaultMainFile : Text := "/src/index.js".toList

/-- The folder of the schemas. -/
def defaultSchemas : Text := "/models".toList

/-- The folder of the routes. -/
def defaultRoutes : Option Kind → Text
  | some .nextjs => "/pages/api".toList
  | _ => "/routes".toList

end ApiScan.Project
