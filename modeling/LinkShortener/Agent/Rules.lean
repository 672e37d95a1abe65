/-!
The rules that recognise browsers, operating systems and devices in user agents, each list in
the order in which its rules are tried.
-/

namespace LinkShortener.Agent

/-- A written rule: the pattern, whether it ignores case, and the templates for the family and
for the major version, in which `$n` stands for a capture. -/
structure RuleText where
  pattern : String
  ignoreCase : Bool
  family : Option String
  version : Option String
  deriving DecidableEq, Repr

def browserTexts : List RuleText := [
  ⟨"(facebookexternalhit)/(\\d+)\\.(\\d+)", false, some "FacebookBot", none⟩,
  ⟨"(Twitterbot)/(\\d+)\\.(\\d+)", false, some "Twitterbot", none⟩,
  ⟨"\\b(008|Altresium|Argus|BaiduMobaider|BoardReader|DNSGroup|DataparkSearch|EDI|Goodzer|Grub|" ++
      "INGRID|Infohelfer|LinkedInBot|LOOQ|Nutch|OgScrper|Pandora|PathDefender|Peew|PostPost|Steele" ++
      "r|Twitterbot|VSE|WebCrunch|WebZIP|Y!J-BR[A-Z]|YahooSeeker|envolk|sproose|wminer)/(\\d+)(?:" ++
      "\\.(\\d+)|)(?:\\.(\\d+)|)", false, none, none⟩,
  ⟨"(Google-HTTP-Java-Client|Apache-HttpClient|PostmanRuntime|Go-http-client|scalaj-http|http%2" ++
      "0client|Python-urllib|HttpMonitor|TLSProber|WinHTTP|JNLP|okhttp|aihttp|reqwest|axios|unires" ++
      "t-(?:java|python|ruby|nodejs|php|net))(?:[ /](\\d+)(?:\\.(\\d+)|)(?:\\.(\\d+)|)|)", false, none, none⟩,
  ⟨"(CSimpleSpider|Cityreview Robot|CrawlDaddy|CrawlFire|Finderbots|Index crawler|Job Roboter|K" ++
      "iwiStatus Spider|Lijit Crawler|QuerySeekerSpider|ScollSpider|Trends Crawler|USyd-NLP-Spider" ++
      "|SiteCat Webbot|BotName\\/\\$BotVersion|123metaspider-Bot|1470\\.net crawler|50\\.nu|8bo Cr" ++
      "awler Bot|Aboundex|Accoona-[A-z]\x7b1,30\x7d-Agent|AdsBot-Google(?:-[a-z]\x7b1,30\x7d|)|alt" ++
      "avista|AppEngine-Google|archive.\x7b0,30\x7d\\.org_bot|archiver|Ask Jeeves|[Bb]ai[Dd]u[Ss]p" ++
      "ider(?:-[A-Za-z]\x7b1,30\x7d)(?:-[A-Za-z]\x7b1,30\x7d|)|bingbot|BingPreview|blitzbot|BlogBr" ++
      "idge|Bloglovin|BoardReader Blog Indexer|BoardReader Favicon Fetcher|boitho.com-dc|BotSeer|B" ++
      "UbiNG|\\b\\w\x7b0,30\x7dfavicon\\w\x7b0,30\x7d\\b|\\bYeti(?:-[a-z]\x7b1,30\x7d|)|Catchpoint" ++
      "(?: bot|)|[Cc]harlotte|Checklinks|clumboot|Comodo HTTP\\(S\\) Crawler|Comodo-Webinspector-C" ++
      "rawler|ConveraCrawler|CRAWL-E|CrawlConvera|Daumoa(?:-feedfetcher|)|Feed Seeker Bot|Feedbin|" ++
      "findlinks|Flamingo_SearchEngine|FollowSite Bot|furlbot|Genieo|gigabot|GomezAgent|gonzo1|(?:" ++
      "[a-zA-Z]\x7b1,30\x7d-|)Googlebot(?:-[a-zA-Z]\x7b1,30\x7d|)|GoogleOther|Google SketchUp|grub" ++
      "-client|gsa-crawler|heritrix|HiddenMarket|holmes|HooWWWer|htdig|ia_archiver|ICC-Crawler|Ica" ++
      "rus6j|ichiro(?:/mobile|)|IconSurf|IlTrovatore(?:-Setaccio|)|InfuzApp|Innovazion Crawler|Int" ++
      "ernetArchive|IP2[a-z]\x7b1,30\x7dBot|jbot\\b|KaloogaBot|Kraken|Kurzor|larbin|LEIA|LesnikBot" ++
      "|Linguee Bot|LinkAider|LinkedInBot|Lite Bot|Llaut|lycos|Mail\\.RU_Bot|masscan|masidani_bot|" ++
      "Mediapartners-Google|Microsoft .\x7b0,30\x7d Bot|mogimogi|mozDex|MJ12bot|msnbot(?:-media " ++
      "\x7b0,2\x7d|)|msrbot|Mtps Feed Aggregation System|netresearch|Netvibes|NewsGator[^/]\x7b0,3" ++
      "0\x7d|^NING|Nutch[^/]\x7b0,30\x7d|Nymesis|ObjectsSearch|OgScrper|Orbiter|OOZBOT|PagePeeker|" ++
      "PagesInventory|PaxleFramework|Peeplo Screenshot Bot|PHPCrawl|PlantyNet_WebRobot|Pompos|Qwan" ++
      "tify|Read%20Later|Reaper|RedCarpet|Retreiver|Riddler|Rival IQ|scooter|Scrapy|Scrubby|search" ++
      "sight|seekbot|semanticdiscovery|SemrushBot|Simpy|SimplePie|SEOstats|SimpleRSS|SiteCon|Slack" ++
      "bot-LinkExpanding|Slack-ImgProxy|Slurp|snappy|Speedy Spider|Squrl Java|Stringer|TheUsefulbo" ++
      "t|ThumbShotsBot|Thumbshots\\.ru|Tiny Tiny RSS|Twitterbot|WhatsApp|URL2PNG|Vagabondo|VoilaBo" ++
      "t|^vortex|Votay bot|^voyager|WASALive.Bot|Web-sniffer|WebThumb|WeSEE:[A-z]\x7b1,30\x7d|What" ++
      "Web|WIRE|WordPress|Wotbox|www\\.almaden\\.ibm\\.com|Xenu(?:.s|) Link Sleuth|Xerka [A-z]\x7b" ++
      "1,30\x7dBot|yacy(?:bot|)|YahooSeeker|Yahoo! Slurp|Yandex\\w\x7b1,30\x7d|YodaoBot(?:-[A-z]" ++
      "\x7b1,30\x7d|)|YottaaMonitor|Yowedo|^Zao|^Zao-Crawler|ZeBot_www\\.ze\\.bz|ZooShot|ZyBorg|Ar" ++
      "cGIS Hub Indexer|GPTBot|Google-InspectionTool)(?:[ /]v?(\\d+)(?:\\.(\\d+)(?:\\.(\\d+)|)|)|)", false, none, none⟩,
  ⟨"^.\x7b0,200\x7d?(?:\\/[A-Za-z0-9\\.]\x7b0,50\x7d|) \x7b0,2\x7d([A-Za-z0-9 \\-_\\!\\[\\]:]" ++
      "\x7b0,50\x7d(?:[Aa]rchiver|[Ii]ndexer|[Ss]craper|[Bb]ot|[Ss]pider|[Cc]rawl[a-z]\x7b0,50\x7d" ++
      "))[/ ](\\d+)(?:\\.(\\d+)(?:\\.(\\d+)|)|)", false, none, none⟩,
  ⟨"^.\x7b0,200\x7d?((?:[A-Za-z][A-Za-z0-9 -]\x7b0,50\x7d|)[^C][^Uu][Bb]ot)\\b(?:(?:[ /]| v)(\\" ++
      "d+)(?:\\.(\\d+)|)(?:\\.(\\d+)|)|)", false, none, none⟩,
  ⟨"^.\x7b0,200\x7d?((?:[A-z0-9]\x7b1,50\x7d|[A-z\\-]\x7b1,50\x7d ?|)(?: the |)(?:[Ss][Pp][Ii][" ++
      "Dd][Ee][Rr]|[Ss]crape|[Cc][Rr][Aa][Ww][Ll])[A-z0-9]\x7b0,50\x7d)(?:(?:[ /]| v)(\\d+)(?:\\.(" ++
      "\\d+)|)(?:\\.(\\d+)|)|)", false, none, none⟩,
  ⟨"(?:Mobile|Tablet);.\x7b0,200\x7d(Firefox)/(\\d+)\\.(\\d+)", false, some "Firefox Mobile", none⟩,
  ⟨"(FxiOS)/(\\d+)\\.(\\d+)(\\.(\\d+)|)(\\.(\\d+)|)", false, some "Firefox iOS", none⟩,
  ⟨"(UC? ?Browser|UCWEB|UCMobile|U3)[ /]?(\\d+)\\.(\\d+)\\.(\\d+)", false, some "UC Browser", none⟩,
  ⟨"(Opera Mini)(?:/att|)/?(\\d+|)(?:\\.(\\d+)|)(?:\\.(\\d+)|)", false, none, none⟩,
  ⟨"(Opera)/.\x7b1,100\x7dOpera Mobi.\x7b1,100\x7dVersion/(\\d+)\\.(\\d+)", false, some "Opera Mobile", none⟩,
  ⟨"(Opera)/9.80.\x7b0,200\x7dVersion/(\\d+)\\.(\\d+)(?:\\.(\\d+)|)", false, none, none⟩,
  ⟨"(hpw|web)OS/(\\d+)\\.(\\d+)(?:\\.(\\d+)|)", false, some "webOS Browser", none⟩,
  ⟨"(PlayStation Vita)", false, some "NetFront NX", none⟩,
  ⟨"(Nintendo 3DS)", false, some "NetFront NX", none⟩,
  ⟨"(Silk)/(\\d+)\\.(\\d+)(?:\\.([0-9\\-]+)|)", false, some "Amazon Silk", none⟩,
  ⟨"Windows Phone .\x7b0,200\x7d(Edge)/(\\d+)\\.(\\d+)", false, some "Edge Mobile", none⟩,
  ⟨"(SamsungBrowser)/(\\d+)\\.(\\d+)", false, some "Samsung Internet", none⟩,
  ⟨"(MQQBrowser)(?:/(\\d+)(?:\\.(\\d+)|)(?:\\.(\\d+)|)|)", false, some "QQ Browser Mobile", none⟩,
  ⟨"Version/.\x7b1,300\x7d(Chrome)/(\\d+)\\.(\\d+)\\.(\\d+)\\.(\\d+)", false, some "Chrome Mobile WebView", none⟩,
  ⟨"(CriOS)/(\\d+)(?:\\.(\\d+)|)(?:\\.(\\d+)|)(?:\\.(\\d+)|)", false, some "Chrome Mobile iOS", none⟩,
  ⟨"(Chrome)/(\\d+)\\.(\\d+)\\.(\\d+)\\.(\\d+) Mobile(?:[ /]|$)", false, some "Chrome Mobile", none⟩,
  ⟨"\\b(MobileIron|FireWeb|Jasmine|ANTGalio|Midori|Fresco|Lobo|PaleMoon|Maxthon|Lynx|OmniWeb|Di" ++
      "llo|Camino|Demeter|Fluid|Fennec|Epiphany|Shiira|Sunrise|Spotify|Flock|Netscape|Lunascape|We" ++
      "bPilot|NetFront|Netfront|Konqueror|SeaMonkey|Kazehakase|Vienna|Iceape|Iceweasel|IceWeasel|I" ++
      "ron|K-Meleon|Sleipnir|Galeon|GranParadiso|Opera Mini|iCab|NetNewsWire|ThunderBrowse|Iris|UP" ++
      "\\.Browser|Bunjalloo|Google Earth|Raven for Mac|Openwave|MacOutlook|Electron|OktaMobile)/(" ++
      "\\d+)\\.(\\d+)\\.(\\d+)", false, none, none⟩,
  ⟨"(Edge?)/(\\d+)(?:\\.(\\d+)|)(?:\\.(\\d+)|)(?:\\.(\\d+)|)", false, some "Edge", none⟩,
  ⟨"(bingbot|Bolt|AdobeAIR|Jasmine|IceCat|Skyfire|Midori|Maxthon|Lynx|Arora|IBrowse|Dillo|Camin" ++
      "o|Shiira|Fennec|Phoenix|Flock|Netscape|Lunascape|Epiphany|WebPilot|Opera Mini|Opera|NetFron" ++
      "t|Netfront|Konqueror|Googlebot|SeaMonkey|Kazehakase|Vienna|Iceape|Iceweasel|IceWeasel|Iron|" ++
      "K-Meleon|Sleipnir|Galeon|GranParadiso|iCab|iTunes|MacAppStore|NetNewsWire|Space Bison|Stain" ++
      "less|Orca|Dolfin|BOLT|Minimo|Tizen Browser|Polaris|Abrowser|Planetweb|ICE Browser|mDolphin|" ++
      "qutebrowser|Otter|QupZilla|MailBar|kmail2|YahooMobileMail|ExchangeWebServices|ExchangeServi" ++
      "cesClient|Dragon|Outlook-iOS-Android)/(\\d+)\\.(\\d+)(?:\\.(\\d+)|)", false, none, none⟩,
  ⟨"(Chromium|Chrome)/(\\d+)\\.(\\d+)(?:\\.(\\d+)|)(?:\\.(\\d+)|)", false, none, none⟩,
  ⟨"(IEMobile)[ /](\\d+)\\.(\\d+)", false, some "IE Mobile", none⟩,
  ⟨"(iRider|Crazy Browser|SkipStone|iCab|Lunascape|Sleipnir|Maemo Browser) (\\d+)\\.(\\d+)\\.(" ++
      "\\d+)", false, none, none⟩,
  ⟨"(iCab|Lunascape|Opera|Android|Jasmine|Polaris|Microsoft SkyDriveSync|The Bat!) (\\d+)(?:\\." ++
      "(\\d+)|)(?:\\.(\\d+)|)", false, none, none⟩,
  ⟨"(Kindle)/(\\d+)\\.(\\d+)", false, none, none⟩,
  ⟨"(iPod|iPhone|iPad).\x7b1,200\x7dVersion/(\\d+)\\.(\\d+)(?:\\.(\\d+)|).\x7b1,200\x7d[ +]Safari", false, some "Mobile Safari", none⟩,
  ⟨"(iPod|iPod touch|iPhone|iPad)", false, some "Mobile Safari UI/WKWebView", none⟩,
  ⟨"^(Nokia)", false, some "Nokia Services (WAP) Browser", none⟩,
  ⟨"(NokiaBrowser)/(\\d+)\\.(\\d+).(\\d+)", false, some "Nokia Browser", none⟩,
  ⟨"(Series60)/5\\.0", false, some "Nokia Browser", none⟩,
  ⟨"(PlayBook).\x7b1,200\x7dRIM Tablet OS (\\d+)\\.(\\d+)\\.(\\d+)", false, some "BlackBerry WebKit", none⟩,
  ⟨"(Black[bB]erry|BB10).\x7b1,200\x7dVersion/(\\d+)\\.(\\d+)\\.(\\d+)", false, some "BlackBerry WebKit", none⟩,
  ⟨"(Black[bB]erry)\\s?(\\d+)", false, some "BlackBerry", none⟩,
  ⟨"(Links) \\((\\d+)\\.(\\d+)", false, none, none⟩,
  ⟨"(Version)/(\\d+)\\.(\\d+)(?:\\.(\\d+)|).\x7b0,100\x7dSafari/", false, some "Safari", none⟩,
  ⟨"(Trident)/(7|8)\\.(0)", false, some "IE", none⟩,
  ⟨"(Trident)/(6)\\.(0)", false, some "IE", none⟩,
  ⟨"(Firefox)/(\\d+)\\.(\\d+)(?:\\.(\\d+)|$)", false, none, none⟩,
  ⟨"([MS]?IE) (\\d+)\\.(\\d+)", false, some "IE", none⟩,
  ⟨"(python-requests)/(\\d+)\\.(\\d+)", false, some "Python Requests", none⟩,
  ⟨"\\b(Windows-Update-Agent|WindowsPowerShell|Microsoft-CryptoAPI|SophosUpdateManager|SophosAg" ++
      "ent|Debian APT-HTTP|Ubuntu APT-HTTP|libcurl-agent|libwww-perl|urlgrabber|curl|PycURL|Wget|w" ++
      "get2|aria2|Axel|OpenBSD ftp|lftp|jupdate|insomnia|fetch libfetch|akka-http|got|CloudCockpit" ++
      "Backend|ReactorNetty|axios|Jersey|Vert.x-WebClient|Apache-CXF|Go-CF-client|go-resty|AHC|HTT" ++
      "Pie)(?:[ /](\\d+)(?:\\.(\\d+)|)(?:\\.(\\d+)|)|)", false, none, none⟩,
  ⟨"(Java)[/ ]?(\\d+)\\.(\\d+)\\.(\\d+)", false, none, none⟩]

def systemTexts : List RuleText := [
  ⟨"(Windows Phone) (?:OS[ /])?(\\d+)\\.(\\d+)", false, none, none⟩,
  ⟨"(Android)[ \\-/](\\d+)(?:\\.(\\d+)|)(?:[.\\-]([a-z0-9]+)|)", false, none, none⟩,
  ⟨"^UCWEB.\x7b0,200\x7d; (Adr) (\\d+)\\.(\\d+)(?:[.\\-]([a-z0-9]\x7b1,100\x7d)|);", false, some "Android", none⟩,
  ⟨"(Silk-Accelerated=[a-z]\x7b4,5\x7d)", false, some "Android", none⟩,
  ⟨"(Win(?:dows NT |32NT\\/)6\\.1)", false, some "Windows", some "7"⟩,
  ⟨"(Win(?:dows NT |32NT\\/)6\\.0)", false, some "Windows", some "Vista"⟩,
  ⟨"(Win 9x 4\\.90)", false, some "Windows", some "ME"⟩,
  ⟨"(Windows NT 6\\.2; ARM;)", false, some "Windows", some "RT"⟩,
  ⟨"(Windows NT 10\\.0)", false, some "Windows", some "10"⟩,
  ⟨"(Windows ?CE)", false, some "Windows", some "CE"⟩,
  ⟨"Win(?:dows)? ?(95|98|3.1|NT|ME|2000|XP|Vista|7|CE)", false, some "Windows", some "$1"⟩,
  ⟨"(Tizen)[/ ](\\d+)\\.(\\d+)", false, none, none⟩,
  ⟨"((?:Mac[ +]?|; )OS[ +]X)[\\s+/](?:(\\d+)[_.](\\d+)(?:[_.](\\d+)|)|Mach-O)", false, some "Mac OS X", none⟩,
  ⟨"(CPU[ +]OS|iPhone[ +]OS|CPU[ +]iPhone|CPU IPhone OS|CPU iPad OS)[ +]+(\\d+)[_\\.](\\d+)(?:[" ++
      "_\\.](\\d+)|)", false, some "iOS", none⟩,
  ⟨"(iPod|iPhone|iPad)", false, some "iOS", none⟩,
  ⟨"(CrOS) [a-z0-9_]+ (\\d+)\\.(\\d+)(?:\\.(\\d+)|)", false, some "Chrome OS", none⟩,
  ⟨"(Symbian[Oo][Ss])[/ ](\\d+)\\.(\\d+)", false, some "Symbian OS", none⟩,
  ⟨"(Symbian/3).\x7b1,200\x7dNokiaBrowser/7\\.3", false, some "Symbian^3 Anna", none⟩,
  ⟨"\\b(Series 60|SymbOS|S60Version|S60V\\d|S60\\b)", false, some "Symbian OS", none⟩,
  ⟨"(MeeGo)", false, none, none⟩,
  ⟨"(BB10);.\x7b1,200\x7dVersion/(\\d+)\\.(\\d+)\\.(\\d+)", false, some "BlackBerry OS", none⟩,
  ⟨"(Black[Bb]erry)[0-9a-z]+/(\\d+)\\.(\\d+)\\.(\\d+)(?:\\.(\\d+)|)", false, some "BlackBerry OS", none⟩,
  ⟨"(Black[Bb]erry).\x7b1,200\x7dVersion/(\\d+)\\.(\\d+)\\.(\\d+)(?:\\.(\\d+)|)", false, some "BlackBerry OS", none⟩,
  ⟨"(RIM Tablet OS) (\\d+)\\.(\\d+)\\.(\\d+)", false, some "BlackBerry Tablet OS", none⟩,
  ⟨"(Black[Bb]erry)", false, some "BlackBerry OS", none⟩,
  ⟨"\\((?:Mobile|Tablet);.\x7b1,200\x7dGecko/18.1 Firefox/\\d+\\.\\d+", false, some "Firefox OS", some "1"⟩,
  ⟨"\\((?:Mobile|Tablet);.\x7b1,200\x7dGecko/26.0 Firefox/\\d+\\.\\d+", false, some "Firefox OS", some "1"⟩,
  ⟨"(hpw|web)OS/(\\d+)\\.(\\d+)(?:\\.(\\d+)|)", false, some "webOS", none⟩,
  ⟨"(Fedora|Red Hat|PCLinuxOS|Puppy|Ubuntu|Kindle|Bada|Sailfish|Lubuntu|BackTrack|Slackware|(?:" ++
      "Free|Open|Net|\\b)BSD)[/ ](\\d+)\\.(\\d+)(?:\\.(\\d+)|)(?:\\.(\\d+)|)", false, none, none⟩,
  ⟨"(Windows|Android|WeTab|Maemo|Web0S)", false, none, none⟩,
  ⟨"(Ubuntu|Kubuntu|Arch Linux|CentOS|Slackware|Gentoo|openSUSE|SUSE|Red Hat|Fedora|PCLinuxOS|M" ++
      "ageia|SerenityOS|(?:Free|Open|Net|\\b)BSD)", false, none, none⟩,
  ⟨"(Linux)(?:[ /](\\d+)\\.(\\d+)(?:\\.(\\d+)|)|)", false, none, none⟩,
  ⟨"SunOS", false, some "Solaris", none⟩,
  ⟨"\\(linux-gnu\\)", false, some "Linux", none⟩,
  ⟨"linux", false, some "Linux", none⟩]

def deviceTexts : List RuleText := [
  ⟨"^.\x7b0,100\x7d?(?:(?:iPhone|Windows CE|Windows Phone|Android).\x7b0,300\x7d(?:(?:Bot|Yeti)" ++
      "-Mobile|YRSpider|BingPreview|bots?/\\d|(?:bot|spider)\\.html|Google-InspectionTool)|AdsBot-" ++
      "Google-Mobile.\x7b0,200\x7diPhone)", true, some "Spider", none⟩,
  ⟨"; \x7b0,2\x7d([g|G]oogle)? (Pixel[ a-zA-z0-9]\x7b1,100\x7d);(?: Build|.\x7b0,50\x7d\\) Appl" ++
      "eWebKit)", false, some "$2", none⟩,
  ⟨"; \x7b0,2\x7d([g|G]oogle)? (Pixel.\x7b0,200\x7d?)(?: Build|\\) AppleWebKit)", false, some "$2", none⟩,
  ⟨"; \x7b0,2\x7d(MZ\\d\x7b3\x7d\\+?|MZ\\d\x7b3\x7d 4G|Xoom|XOOM[^;/]*) Build", false, some "Motorola $1", none⟩,
  ⟨"(?:; \x7b0,2\x7d|^)((?:GT\\-[BIiNPS]\\d\x7b4\x7d|I9\\d\x7b2\x7d0[A-Za-z\\+]?\\b)[^;/\\)]*?)" ++
      "(?:Build|Linux|MIUI|[;/\\)])", false, some "Samsung $1", none⟩,
  ⟨"; \x7b0,2\x7d((?:SCH|SGH|SHV|SHW|SPH|SC|SM)\\-[A-Za-z0-9]\x7b5,6\x7d)[\\)]", false, some "Samsung $1", none⟩,
  ⟨"(PlayStation (?:Portable|Vita|\\d+))", false, some "$1", none⟩,
  ⟨"; \x7b0,2\x7d((Mi|MI|HM|MI-ONE|Redmi)[ -](NOTE |Note |)[^;/\\)]*)", false, some "XiaoMi $1", none⟩,
  ⟨"; ?(KFTT) Build\\b", false, some "Kindle Fire HD", none⟩,
  ⟨" (Kindle)/(\\d+\\.\\d+)", false, some "Kindle", none⟩,
  ⟨" (Silk|Kindle)/(\\d+)\\.", false, some "Kindle", none⟩,
  ⟨"Windows Phone [^;]\x7b1,30\x7d; .\x7b0,100\x7d?IEMobile/[^;\\)]+[;\\)] ?(?:ARM; ?Touch; ?|T" ++
      "ouch; ?|)(?:LG|Lg)[^;]\x7b0,200\x7d; \x7b0,2\x7d(?:LG[ \\-]|)([^;,\\)]+)", false, some "LG $1", none⟩,
  ⟨"Windows Phone [^;]\x7b1,30\x7d; .\x7b0,100\x7d?IEMobile/[^;\\)]+[;\\)] ?(?:ARM; ?Touch; ?|T" ++
      "ouch; ?|)(?:rv:11; |)(?:NOKIA|Nokia)[^;]\x7b0,200\x7d; \x7b0,2\x7d(?:NOKIA ?|Nokia ?|LUMIA " ++
      "?|[Ll]umia ?|)(\\d\x7b3,10\x7d[^;\\)]*)", false, some "Lumia $1", none⟩,
  ⟨"(?:^|; )SAMSUNG\\-([A-Za-z0-9\\-]\x7b1,50\x7d).\x7b0,200\x7d Bada/", false, some "Samsung $1", none⟩,
  ⟨"\\(Mobile; ALCATEL ?(One|ONE) ?(Touch|TOUCH) ?([^;/]\x7b1,100\x7d?)(?:/[^;]\x7b1,200\x7d|);" ++
      " rv:[^\\)]\x7b1,200\x7d\\) Gecko/[^\\/]\x7b1,200\x7d Firefox/", false, some "Alcatel $1 $2 $3", none⟩,
  ⟨"Nokia(N[0-9]+)([A-Za-z_\\-][A-Za-z0-9_\\-]*)", false, some "Nokia $1", none⟩,
  ⟨"(?:NOKIA|Nokia)(?:\\-| \x7b0,2\x7d)(?:([A-Za-z0-9]+)\\-[0-9a-f]\x7b32\x7d|([A-Za-z0-9\\-]+)" ++
      "(?:UCBrowser)|([A-Za-z0-9\\-]+))", false, some "Nokia $1$2$3", none⟩,
  ⟨"Lumia ([A-Za-z0-9\\-]+)", false, some "Lumia $1", none⟩,
  ⟨"BB10; ([A-Za-z0-9\\- ]+)\\)", false, some "BlackBerry $1", none⟩,
  ⟨"Play[Bb]ook.\x7b1,200\x7dRIM Tablet OS", false, some "BlackBerry Playbook", none⟩,
  ⟨"Black[Bb]erry ([0-9]+);", false, some "BlackBerry $1", none⟩,
  ⟨"Black[Bb]erry([0-9]+)", false, some "BlackBerry $1", none⟩,
  ⟨"(Touch[Pp]ad)/\\d+\\.\\d+", false, some "HP TouchPad", none⟩,
  ⟨"(iPad)(?:;| Simulator;)", false, some "$1", none⟩,
  ⟨"(iPod)(?:;| touch;| Simulator;)", false, some "$1", none⟩,
  ⟨"(iPhone)(?:;| Simulator;)", false, some "$1", none⟩,
  ⟨"iPhone", false, some "iPhone", none⟩,
  ⟨"\\bDell ([A-Za-z0-9]+)", false, some "Dell $1", none⟩,
  ⟨"; ARM; Trident/6\\.0; Touch[\\);]", false, some "Microsoft Surface RT", none⟩,
  ⟨"Nintendo (Switch|DS|3DS|DSi|Wii);", false, some "Nintendo $1", none⟩,
  ⟨"(SMART-TV); .\x7b0,200\x7d Tizen ", false, some "Samsung $1", none⟩,
  ⟨"SAMSUNG(?:; |[ -/])([A-Za-z0-9\\-]+)", true, some "Samsung $1", none⟩,
  ⟨"Android \\d+?(?:\\.\\d+|)(?:\\.\\d+|); ([^;]\x7b1,100\x7d?)(?: Build|\\) AppleWebKit).\x7b1" ++
      ",200\x7d? Safari", false, none, none⟩,
  ⟨"Android \\d+?(?:\\.\\d+|)(?:\\.\\d+|); ([^;]\x7b1,100\x7d?)(?: Build|\\))", false, none, none⟩,
  ⟨"(Android 3\\.\\d|Opera Tablet|Tablet; .\x7b1,100\x7dFirefox/|Android.\x7b0,100\x7d(?:Tab|Pad))", true, some "Generic Tablet", none⟩,
  ⟨"(Symbian|\\bS60(Version|V\\d)|\\bS60\\b|\\((Series 60|Windows Mobile|Palm OS|Bada); Opera M" ++
      "ini|Windows CE|Opera Mobi|BREW|Brew|Mobile; .\x7b1,200\x7dFirefox/|iPhone OS|Android|Mobile" ++
      "Safari|Windows \x7b0,2\x7dPhone|\\(webOS/|PalmOS)", false, some "Generic Smartphone", none⟩,
  ⟨"^.\x7b0,100\x7d(bot|BUbiNG|zao|borg|DBot|oegp|silk|Xenu|zeal|^NING|CCBot|crawl|htdig|lycos|" ++
      "slurp|teoma|voila|yahoo|Sogou|CiBra|Nutch|^Java/|^JNLP/|Daumoa|Daum|Genieo|ichiro|larbin|po" ++
      "mpos|Scrapy|snappy|speedy|spider|msnbot|msrbot|vortex|^vortex|crawler|favicon|indexer|Riddl" ++
      "er|scooter|scraper|scrubby|WhatWeb|WinHTTP|bingbot|BingPreview|openbot|gigabot|furlbot|poly" ++
      "bot|seekbot|^voyager|archiver|Icarus6j|mogimogi|Netvibes|blitzbot|altavista|charlotte|findl" ++
      "inks|Retreiver|TLSProber|WordPress|SeznamBot|ProoXiBot|wsr\\-agent|Squrl Java|EtaoSpider|Pa" ++
      "perLiBot|SputnikBot|A6\\-Indexer|netresearch|searchsight|baiduspider|YisouSpider|ICC\\-Craw" ++
      "ler|http%20client|Python-urllib|dataparksearch|converacrawler|Screaming Frog|AppEngine-Goog" ++
      "le|YahooCacheSystem|fast\\-webcrawler|Sogou Pic Spider|semanticdiscovery|Innovazion Crawler" ++
      "|facebookexternalhit|Google.\x7b0,200\x7d/\\+/web/snippet|Google-HTTP-Java-Client|BlogBridg" ++
      "e|IlTrovatore-Setaccio|InternetArchive|GomezAgent|WebThumbnail|heritrix|NewsGator|PagePeeke" ++
      "r|Reaper|ZooShot|holmes|NL-Crawler|Pingdom|StatusCake|WhatsApp|masscan|Google Web Preview|Q" ++
      "wantify|Yeti|OgScrper|RecipeRadar|GPTBot|Google-InspectionTool)", true, some "Spider", none⟩,
  ⟨"^(1207|3gso|4thp|501i|502i|503i|504i|505i|506i|6310|6590|770s|802s|a wa|acer|acs\\-|airn|al" ++
      "av|asus|attw|au\\-m|aur |aus |abac|acoo|aiko|alco|alca|amoi|anex|anny|anyw|aptu|arch|argo|b" ++
      "mobile|bell|bird|bw\\-n|bw\\-u|beck|benq|bilb|blac|c55/|cdm\\-|chtm|capi|comp|cond|dall|dbt" ++
      "e|dc\\-s|dica|ds\\-d|ds12|dait|devi|dmob|doco|dopo|dorado|el(?:38|39|48|49|50|55|58|68)|el[" ++
      "3456]\\d\x7b2\x7ddual|erk0|esl8|ex300|ez40|ez60|ez70|ezos|ezze|elai|emul|eric|ezwa|fake|fly" ++
      "\\-|fly_|g\\-mo|g1 u|g560|gf\\-5|grun|gene|go.w|good|grad|hcit|hd\\-m|hd\\-p|hd\\-t|hei\\-|" ++
      "hp i|hpip|hs\\-c|htc |htc\\-|htca|htcg)", true, some "Generic Feature Phone", none⟩,
  ⟨"^(htcp|htcs|htct|htc_|haie|hita|huaw|hutc|i\\-20|i\\-go|i\\-ma|i\\-mobile|i230|iac|iac\\-|i" ++
      "ac/|ig01|im1k|inno|iris|jata|kddi|kgt|kgt/|kpt |kwc\\-|klon|lexi|lg g|lg\\-a|lg\\-b|lg\\-c|" ++
      "lg\\-d|lg\\-f|lg\\-g|lg\\-k|lg\\-l|lg\\-m|lg\\-o|lg\\-p|lg\\-s|lg\\-t|lg\\-u|lg\\-w|lg/k|lg" ++
      "/l|lg/u|lg50|lg54|lge\\-|lge/|leno|m1\\-w|m3ga|m50/|maui|mc01|mc21|mcca|medi|meri|mio8|mioa" ++
      "|mo01|mo02|mode|modo|mot |mot\\-|mt50|mtp1|mtv |mate|maxo|merc|mits|mobi|motv|mozz|n100|n10" ++
      "1|n102|n202|n203|n300|n302|n500|n502|n505|n700|n701|n710|nec\\-|nem\\-|newg|neon)", true, some "Generic Feature Phone", none⟩,
  ⟨"^(talk|teli|topl|tosh|up.b|upg1|utst|v400|v750|veri|vk\\-v|vk40|vk50|vk52|vk53|vm40|vx98|vi" ++
      "rg|vertu|vite|voda|vulc|w3c |w3c\\-|wapj|wapp|wapu|wapm|wig |wapi|wapr|wapv|wapy|wapa|waps|" ++
      "wapt|winc|winw|wonu|x700|xda2|xdag|yas\\-|your|zte\\-|zeto|aste|audi|avan|blaz|brew|brvw|bu" ++
      "mb|ccwa|cell|cldc|cmd\\-|dang|eml2|fetc|hipt|http|ibro|idea|ikom|ipaq|jbro|jemu|jigs|keji|k" ++
      "yoc|kyok|libw|m\\-cr|midp|mmef|moto|mwbp|mywa|newt|nok6|o2im|pant|pdxg|play|pluc|port|prox|" ++
      "rozo|sama|seri|smal|symb|treo|upsi|vx52|vx53|vx60|vx61|vx70|vx80|vx81|vx83|vx85|wap\\-|webc" ++
      "|whit|wmlb|xda\\-|xda_)", true, some "Generic Feature Phone", none⟩,
  ⟨"(wap[\\-\\ ]browser|maui|netfront|obigo|teleca|up\\.browser|midp|Opera Mini)", true, some "Generic Feature Phone", none⟩,
  ⟨"Mac OS", false, some "Mac", none⟩]

end LinkShortener.Agent
