/-!
# Categories of trust

The places a rendered value can be destined for in which a wrong value does harm. A value approved
for one of them carries its category along.

Main definitions:

* `Category`: the five places.
* `Category.admits`: which places an approval is good for.
-/

namespace Interpolation.Trust

/-- A sensitive place for a rendered value. -/
inductive Category where
  | html
  | css
  | url
  | resourceUrl
  | js
deriving DecidableEq, Repr

namespace Category

/-- All categories, in the order in which they are offered. -/
def all : List Category := [.html, .css, .url, .resourceUrl, .js]

/-- The name by which a category is asked for. -/
def name : Category → String
  | .html => "html"
  | .css => "css"
  | .url => "url"
  | .resourceUrl => "resource_url"
  | .js => "js"

/-- The name of the category as a constant. -/
def label : Category → String
  | .html => "HTML"
  | .css => "CSS"
  | .url => "URL"
  | .resourceUrl => "RESOURCE_URL"
  | .js => "JS"

/-- The category with a name. -/
def ofName? (s : String) : Option Category := all.find? fun c => c.name == s

/-- The text of a category where it is shown as a constant. -/
def text (c : Category) : String := "TrustCategory." ++ c.label

/-- Whether a value approved for the category may be used where `wanted` is asked for: an approval
for resources is also one for plain links. -/
def admits (approved wanted : Category) : Bool :=
  approved == wanted || (approved == .resourceUrl && wanted == .url)

theorem ofName?_name (c : Category) : ofName? c.name = some c := by
  cases c <;> decide

end Category

end Interpolation.Trust
