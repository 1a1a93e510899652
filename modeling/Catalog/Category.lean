import Catalog.Failure
import Catalog.Text.Case
import Catalog.Text.Scan

/-! The fixed taxonomy of components, and the guess for a component that it does not list. -/
namespace Catalog

structure Category where
  name : String
  title : String
  description : String
  componentNames : List String := []
  deriving DecidableEq, Repr, Inhabited

/-- The letters that the component names of the library begin with. -/
def namePrefix : String := "Bit"

/-- The name without the letters that all component names begin with. -/
def bareName (name : String) : String :=
  if Text.beginsWith name namePrefix then Text.dropFirst name namePrefix.length else name

namespace Category

def known : List Category := [
  ⟨"Buttons", "Buttons", "Interactive button components",
    ["BitButton", "BitButtonGroup", "BitMenuButton", "BitToggleButton", "BitActionButton"]⟩,
  ⟨"Inputs", "Inputs", "Form input and control components",
    ["BitTextField", "BitNumberField", "BitSearchBox", "BitCheckbox", "BitChoiceGroup", "BitDropdown",
      "BitToggle", "BitSlider", "BitRating", "BitDatePicker", "BitTimePicker", "BitDateRangePicker",
      "BitColorPicker", "BitFileUpload", "BitOtpInput", "BitCircularTimePicker"]⟩,
  ⟨"Navs", "Navs", "Navigation components",
    ["BitNav", "BitNavBar", "BitBreadcrumb", "BitPagination", "BitPivot"]⟩,
  ⟨"Surfaces", "Surfaces", "Surface and container components",
    ["BitAccordion", "BitCard", "BitDialog", "BitModal", "BitPanel", "BitTooltip", "BitCallout",
      "BitPopover", "BitScrollablePane"]⟩,
  ⟨"Notifications", "Notifications", "Notification and feedback components",
    ["BitMessageBar", "BitSnackBar", "BitBadge", "BitPersona", "BitTag"]⟩,
  ⟨"Lists", "Lists", "List and data display components",
    ["BitBasicList", "BitTimeline", "BitCarousel", "BitSwiper"]⟩,
  ⟨"Layouts", "Layouts", "Layout and structure components",
    ["BitGrid", "BitStack", "BitSpacer", "BitSeparator", "BitHeader", "BitFooter", "BitLayout"]⟩,
  ⟨"Progress", "Progress", "Progress and loading indicators",
    ["BitProgress", "BitLoading", "BitShimmer"]⟩,
  ⟨"Utilities", "Utilities", "Utility components and helpers",
    ["BitIcon", "BitImage", "BitLink", "BitText", "BitLabel", "BitElement", "BitOverlay", "BitStickyHeader"]⟩,
  ⟨"Extras", "Extras", "Additional components and extensions",
    ["BitChart", "BitDataGrid", "BitPdfReader"]⟩]

/-- Words that tell the category of a name that holds one of them, in the order in which they are tried. -/
def hints : List (String × List String) := [
  ("Buttons", ["button"]),
  ("Inputs", ["textfield", "numberfield", "searchbox", "checkbox", "choicegroup", "dropdown", "toggle",
    "slider", "rating", "picker", "fileupload", "otpinput"]),
  ("Navs", ["nav", "navbar", "breadcrumb", "pagination", "pivot"]),
  ("Surfaces", ["accordion", "card", "dialog", "modal", "panel", "tooltip", "callout", "popover",
    "scrollablepane"]),
  ("Notifications", ["messagebar", "snackbar", "badge", "persona", "tag"]),
  ("Lists", ["basiclist", "timeline", "carousel", "swiper"]),
  ("Layouts", ["grid", "stack", "spacer", "separator", "header", "footer", "layout"]),
  ("Progress", ["progress", "loading", "shimmer"]),
  ("Extras", ["chart", "datagrid", "pdfreader"]),
  ("Utilities", ["icon", "image", "link", "text", "label", "element", "overlay", "stickyheader"])]

/-- The category of a name that holds none of the words. -/
def fallback : String := "Utilities"

/-- The category that a name suggests. -/
def guess (name : String) : String :=
  let bare := Text.lower (bareName name)
  match hints.find? fun (_, words) => words.any (Text.contains bare) with
  | some (category, _) => category
  | none => fallback

def infer (name : String) : Except Failure String := do
  requireName name "component_name"
  .ok (guess name)

end Category

/-- A taxonomy, empty until it is filled with the known categories. -/
structure Taxonomy where
  categories : List Category := []
  filled : Bool := false
  deriving DecidableEq, Repr, Inhabited

namespace Taxonomy

/-- The taxonomy with the known categories in it; filling it again changes nothing. -/
def fill (t : Taxonomy) : Taxonomy :=
  if t.filled then t else ⟨t.categories ++ Category.known, true⟩

/-- The category that lists a component; the last one, should there be several. -/
def listing? (t : Taxonomy) (name : String) : Option Category :=
  t.categories.reverse.find? fun c => c.componentNames.any fun n => Text.lower n = Text.lower name

/-- The category that lists a component with a non-blank name. -/
def categoryOf (t : Taxonomy) (name : String) : Except Failure (Option Category) := do
  requireName name "component_name"
  .ok (t.listing? name)

def categoryNameOf (t : Taxonomy) (name : String) : Except Failure (Option String) := do
  let category ← t.categoryOf name
  .ok (category.map Category.name)

/-- The components listed under the name or title of a category, in any case. -/
def componentsIn (t : Taxonomy) (name : String) : Except Failure (List String) := do
  requireName name "category_name"
  let wanted := Text.lower name
  match t.categories.find? fun c => Text.lower c.name = wanted || Text.lower c.title = wanted with
  | some category => .ok category.componentNames
  | none => .ok []

/-- The category of a component: the one that lists it, else the one that its name suggests. -/
def assign (t : Taxonomy) (name : String) : Except Failure String := do
  match ← t.categoryNameOf name with
  | some category => .ok category
  | none => Category.infer name

end Taxonomy
end Catalog
