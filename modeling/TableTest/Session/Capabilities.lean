/-
`TableTest.Session.Capabilities` — the capabilities of the simulated browser

The methods that a catalog for the browser is made from.  The last eight belong to the life
cycle of the browser; scripts reach them only under settings that do not reserve them, and
the browser does not answer them.
-/
import TableTest.Catalog

namespace TableTest.Session

/-- The methods that read something off the page. -/
def accessors : List Capability :=
  [⟨"getTitle", 0⟩, ⟨"getLocation", 0⟩, ⟨"getBodyText", 0⟩, ⟨"getAllLinks", 0⟩,
   ⟨"getAllButtons", 0⟩, ⟨"getAllFields", 0⟩, ⟨"getCookie", 0⟩, ⟨"getText", 1⟩, ⟨"getValue", 1⟩,
   ⟨"getAttribute", 1⟩, ⟨"getSelectedLabel", 1⟩, ⟨"getCookieByName", 1⟩, ⟨"isTextPresent", 1⟩,
   ⟨"isElementPresent", 1⟩, ⟨"isVisible", 1⟩, ⟨"isEditable", 1⟩, ⟨"isChecked", 1⟩,
   ⟨"isCookiePresent", 1⟩]

/-- The methods that act on the page. -/
def deeds : List Capability :=
  [⟨"goBack", 0⟩, ⟨"refresh", 0⟩, ⟨"windowFocus", 0⟩, ⟨"windowMaximize", 0⟩,
   ⟨"deleteAllVisibleCookies", 0⟩, ⟨"open", 1⟩, ⟨"click", 1⟩, ⟨"check", 1⟩, ⟨"uncheck", 1⟩,
   ⟨"submit", 1⟩, ⟨"waitForPageToLoad", 1⟩, ⟨"setTimeout", 1⟩, ⟨"setSpeed", 1⟩, ⟨"type", 2⟩,
   ⟨"select", 2⟩, ⟨"fireEvent", 2⟩, ⟨"createCookie", 2⟩, ⟨"deleteCookie", 2⟩]

def lifecycle : List Capability :=
  [⟨"start", 0⟩, ⟨"stop", 0⟩, ⟨"pause", 1⟩, ⟨"setExtensionJs", 1⟩, ⟨"allowNativeXpath", 1⟩,
   ⟨"setBrowserLogLevel", 1⟩, ⟨"addCustomRequestHeader", 2⟩, ⟨"rollup", 2⟩]

def capabilities : List Capability := accessors ++ deeds ++ lifecycle

/-- The catalog of the browser. -/
def catalog (settings : CatalogSettings) : Except Failure Catalog :=
  Catalog.build settings capabilities

end TableTest.Session
