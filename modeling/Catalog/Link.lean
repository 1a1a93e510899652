import Catalog.Text.Case
import Catalog.Text.Scan

/-! Addresses of the documentation page and the source folder of a component. -/
namespace Catalog.Link

def documentationBase : String := "https://blazorui.bitplatform.dev/components"

def sourceBase : String := "https://github.com/bitfoundation/bitplatform/tree/main"

/-- The path with slashes for backslashes. -/
def withSlashes (path : String) : String :=
  Text.replace path "\\" "/"

def withoutEndSlashes (text : String) : String :=
  Text.trimEndWhile (· = '/') text

/-- The address of the documentation page: the base and the last folder of the path in lower case. -/
def documentation (path base : String) : String :=
  withoutEndSlashes base ++ "/" ++ Text.lower (Text.afterLast (withoutEndSlashes (withSlashes path)) '/')

/-- The address of the source folder: the base and the path. -/
def source (path base : String) : String :=
  withoutEndSlashes base ++ "/" ++ Text.trimStartWhile (· = '/') (withoutEndSlashes (withSlashes path))

end Catalog.Link
