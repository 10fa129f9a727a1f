import ApiScan.Text.Basic

set_option autoImplicit false

/-! # Names of source files

A source file is known by its name without the extension. -/

namespace ApiScan.Source

/-- The extensions of source files. -/
def extensions : List Text :=
  [".ts", ".js", ".mjs", ".cjs", ".tsx", ".jsx", ".mts", ".cts", ".prisma"].map String.toList

/-- A file name without its source extension. A name that is nothing but an extension keeps it. -/
def stripExtension (name : Text) : Text :=
  match extensions.find? fun ext => Text.endsWith ext name && ext.length < name.length with
  | some ext => name.take (name.length - ext.length)
  | none => name

end ApiScan.Source
