import LinkShortener.Agent.PatternText
import LinkShortener.Agent.Rules
import LinkShortener.Device
import LinkShortener.Numeral.Grammar
import LinkShortener.Text.Search

/-!
The device class of a user agent. The first rule of each list that is found in the text names
the browser, the operating system with its version, and the device; four traits are read off
these and off words of the text, and the first trait in the order mobile, tablet, desktop, bot
decides the class. The numbers of the versions of browser and system are read in any case, and
one of them may have too many digits.
-/

namespace LinkShortener.Agent

/-- A rule ready for use. -/
structure Rule where
  pattern : Pattern
  ignoreCase : Bool
  family : Option (List Char)
  version : Option (List Char)

/-- The rules of a list, in its order. -/
def compile (texts : List RuleText) : List Rule :=
  texts.filterMap fun t => (Pattern.read? t.pattern).map fun p =>
    ⟨p, t.ignoreCase, t.family.map String.toList, t.version.map String.toList⟩

def browserRules : List Rule := compile browserTexts

def systemRules : List Rule := compile systemTexts

def deviceRules : List Rule := compile deviceTexts

/-- The captures of a match. -/
abbrev Captures := List (Nat × List Char)

def capture? (found : Captures) (index : Nat) : Option (List Char) := found.lookup index

/-- A template with its captures put in, trimmed; a capture that is not set is empty. -/
def fill (found : Captures) (template : List Char) : List Char :=
  let rec go : List Char → List Char
    | [] => []
    | c :: rest =>
      if c = '$' then
        match rest with
        | d :: tail =>
          if d.isDigit then (capture? found (d.toNat - 48)).getD [] ++ go tail
          else c :: go (d :: tail)
        | [] => [c]
      else c :: go rest
  Text.trimChars (go template)

/-- What a rule gives: its template filled, or a capture. -/
def part? (found : Captures) (template : Option (List Char)) (index : Nat) : Option (List Char) :=
  match template with
  | some t => some (fill found t)
  | none => capture? found index

/-- The first rule of a list that is found in a text, with its captures. -/
def firstRule (rules : List Rule) (text : List Char) : Option (Rule × Captures) :=
  rules.findSome? fun r => (r.pattern.search r.ignoreCase text).map (r, ·)

/-- The family of what no rule recognises. -/
def otherFamily : List Char := "Other".toList

/-- What a list of rules finds: a family, and the parts of its version as far as they are known,
the greater ones first. -/
structure Finding where
  family : String
  parts : List (List Char)
  deriving DecidableEq, Repr

/-- What a list of rules finds in a text. -/
def find (rules : List Rule) (text : List Char) : Finding :=
  match firstRule rules text with
  | some (r, found) =>
    ⟨String.ofList ((part? found r.family 1).getD otherFamily),
      [part? found r.version 2, capture? found 3, capture? found 4].filterMap id⟩
  | none => ⟨String.ofList otherFamily, []⟩

namespace Finding

def version (f : Finding) : String := String.ofList (['.'].intercalate f.parts)

/-- The first part of the version that is a number with too many digits. -/
def oversized? (f : Finding) : Option Numeral.Oversized :=
  (f.parts.filter (·.all Text.isDecimal)).findSome? Numeral.oversized?

end Finding

/-- What is known of a user agent. -/
structure Profile where
  text : List Char
  browser : Finding
  system : Finding
  device : Finding

/-- What the rules find in a user agent. -/
def Profile.ofText (text : String) : Profile :=
  let chars := text.toList
  ⟨chars, find browserRules chars, find systemRules chars, find deviceRules chars⟩

namespace Profile

/-- The first number with too many digits in a version; that of the system is read first, that
of the device not at all. -/
def oversized? (p : Profile) : Option Numeral.Oversized :=
  p.system.oversized?.or p.browser.oversized?

def mentions (p : Profile) (word : String) : Bool := Text.occurs word p.text

/-- Whether the name of the browser holds the word for a mobile one. -/
def mobileBrowser (p : Profile) : Bool := Text.occurs "Mobile" p.browser.family.toList

/-- An Android device without the marks of a phone. -/
def largeAndroid (p : Profile) : Bool :=
  !p.mentions "Mobile Safari" && p.browser.family != "Firefox Mobile"

def isTablet (p : Profile) : Bool :=
  ["iPad", "BlackBerry Playbook", "Blackberry Playbook", "Kindle", "Kindle Fire",
    "Kindle Fire HD", "Galaxy Tab", "Xoom", "Dell Streak"].contains p.device.family ||
  (p.system.family == "Android" && p.largeAndroid) ||
  (p.system.family == "Windows" && "RT".toList.isPrefixOf p.system.version.toList) ||
  (p.system.family == "Firefox OS" && !p.mobileBrowser)

def isMobile (p : Profile) : Bool :=
  ["iPhone", "iPod", "Generic Smartphone", "Generic Feature Phone", "PlayStation Vita",
    "iOS-Device"].contains p.device.family ||
  ["IE Mobile", "Opera Mobile", "Opera Mini", "Chrome Mobile", "Chrome Mobile WebView",
    "Chrome Mobile iOS"].contains p.browser.family ||
  ((p.system.family == "Android" || p.system.family == "Firefox OS") && !p.isTablet) ||
  (p.system.family == "BlackBerry OS" && p.device.family != "Blackberry Playbook") ||
  ["Windows Phone", "Windows Phone OS", "Symbian OS", "Bada", "Windows CE", "Windows Mobile",
    "Maemo"].contains p.system.family ||
  p.mentions "J2ME" || p.mentions "MIDP" || p.mentions "iPhone;" || p.mentions "Googlebot-Mobile" ||
  (p.device.family == "Spider" && p.mobileBrowser) ||
  (p.mentions "NokiaBrowser" && p.mentions "Mobile")

def isDesktop (p : Profile) : Bool :=
  p.mentions "Windows NT" ||
  ["Windows 95", "Windows 98", "Solaris"].contains p.system.family ||
  (p.system.family == "Windows" && p.system.version == "ME") ||
  (p.system.family == "Mac OS X" && !p.mentions "Silk") ||
  (!p.mentions "Maemo" &&
    (Text.occurs "Chrome OS" p.system.family.toList || (p.mentions "Linux" && p.mentions "X11")))

/-- A program that reads pages on its own. -/
def isBot (p : Profile) : Bool := p.device.family == "Spider"

end Profile

/-- The traits that decide a device class. -/
structure Traits where
  mobile : Bool
  tablet : Bool
  desktop : Bool
  bot : Bool
  deriving DecidableEq, Repr

def Traits.ofProfile (p : Profile) : Traits := ⟨p.isMobile, p.isTablet, p.isDesktop, p.isBot⟩

/-- The class of the first trait that holds. -/
def Traits.device (t : Traits) : Device :=
  if t.mobile then .mobile
  else if t.tablet then .tablet
  else if t.desktop then .desktop
  else if t.bot then .bot
  else .unknown

/-- The device class of a user agent; an empty one has none. A user agent with a version that
cannot be read is in no class. -/
def classify (text : String) : Except Numeral.Oversized Device :=
  if text.isEmpty then .ok .unknown
  else
    let p := Profile.ofText text
    p.oversized?.elim (.ok (Traits.ofProfile p).device) .error

end LinkShortener.Agent
