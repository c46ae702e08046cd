/-
  Emoji codes in text.

  A code is a name between two colons, as in `:rocket:`, without blanks.  The name may end in
  `-text` or `-emoji`, which asks for one of the two presentations of the character.  What looks
  like a code and has no known name is left alone, and both its colons are used up.
-/
import SchemaAssist.Text.Blank
import SchemaAssist.Text.Case

namespace SchemaAssist.Terminal

def emojiNames : List (String × Char) := [
  ("100", '💯'), ("1234", '🔢'), ("+1", '👍'), ("-1", '👎'), ("8ball", '🎱'), ("a", '🅰'), ("ab", '🆎'),
  ("abc", '🔤'), ("abcd", '🔡'), ("airplane", '✈'), ("alien", '👽'), ("ambulance", '🚑'),
  ("anchor", '⚓'), ("angry", '😠'), ("ant", '🐜'), ("apple", '🍎'), ("art", '🎨'), ("astonished", '😲'),
  ("atm", '🏧'), ("b", '🅱'), ("baby", '👶'), ("back", '🔙'), ("balloon", '🎈'), ("banana", '🍌'),
  ("bank", '🏦'), ("bar_chart", '📊'), ("baseball", '⚾'), ("basketball", '🏀'), ("bear", '🐻'),
  ("bee", '🐝'), ("beer", '🍺'), ("beers", '🍻'), ("bell", '🔔'), ("bird", '🐦'), ("birthday", '🎂'),
  ("blue_book", '📘'), ("blue_heart", '💙'), ("blush", '😊'), ("bomb", '💣'), ("book", '📖'),
  ("bookmark", '🔖'), ("books", '📚'), ("boom", '💥'), ("bread", '🍞'), ("broken_heart", '💔'),
  ("bug", '🐛'), ("bulb", '💡'), ("bus", '🚌'), ("cactus", '🌵'), ("cake", '🍰'), ("calendar", '📆'),
  ("camera", '📷'), ("candy", '🍬'), ("car", '🚗'), ("cat", '🐱'), ("chart_with_downwards_trend", '📉'),
  ("chart_with_upwards_trend", '📈'), ("checkered_flag", '🏁'), ("cherries", '🍒'), ("chicken", '🐔'),
  ("cl", '🆑'), ("clap", '👏'), ("clipboard", '📋'), ("closed_lock_with_key", '🔐'), ("cloud", '☁'),
  ("clown_face", '🤡'), ("coffee", '☕'), ("computer", '💻'), ("construction", '🚧'), ("cookie", '🍪'),
  ("cool", '🆒'), ("copyright", '©'), ("corn", '🌽'), ("cow", '🐮'), ("crab", '🦀'),
  ("cross_mark", '❌'), ("crown", '👑'), ("cry", '😢'), ("crystal_ball", '🔮'), ("dart", '🎯'),
  ("date", '📅'), ("dizzy", '💫'), ("dog", '🐶'), ("dollar", '💵'), ("dolphin", '🐬'), ("door", '🚪'),
  ("dragon", '🐉'), ("droplet", '💧'), ("duck", '🦆'), ("eagle", '🦅'), ("ear", '👂'),
  ("earth_africa", '🌍'), ("earth_americas", '🌎'), ("earth_asia", '🌏'), ("egg", '🥚'),
  ("elephant", '🐘'), ("email", '✉'), ("end", '🔚'), ("exclamation", '❗'), ("eyes", '👀'),
  ("factory", '🏭'), ("fire", '🔥'), ("fish", '🐟'), ("floppy_disk", '💾'), ("four_leaf_clover", '🍀'),
  ("fox_face", '🦊'), ("free", '🆓'), ("frog", '🐸'), ("game_die", '🎲'), ("gear", '⚙'), ("gem", '💎'),
  ("ghost", '👻'), ("gift", '🎁'), ("grapes", '🍇'), ("green_heart", '💚'), ("grin", '😁'),
  ("grinning", '😀'), ("guitar", '🎸'), ("hammer", '🔨'), ("hamster", '🐹'), ("hankey", '💩'),
  ("headphones", '🎧'), ("heart", '❤'), ("heart_eyes", '😍'), ("heavy_check_mark", '✔'),
  ("herb", '🌿'), ("horse", '🐴'), ("hospital", '🏥'), ("hotel", '🏨'), ("hourglass", '⌛'),
  ("house", '🏠'), ("id", '🆔'), ("inbox_tray", '📥'), ("joy", '😂'), ("key", '🔑'), ("kiss", '💋'),
  ("koala", '🐨'), ("label", '🏷'), ("laughing", '😆'), ("leaves", '🍃'), ("lemon", '🍋'),
  ("link", '🔗'), ("lock", '🔒'), ("m", 'Ⓜ'), ("mag", '🔍'), ("mag_right", '🔎'), ("mailbox", '📫'),
  ("man", '👨'), ("maple_leaf", '🍁'), ("memo", '📝'), ("microphone", '🎤'), ("microscope", '🔬'),
  ("money_with_wings", '💸'), ("monkey", '🐒'), ("moneybag", '💰'), ("moon", '🌔'), ("mouse", '🐭'),
  ("movie_camera", '🎥'), ("mushroom", '🍄'), ("muscle", '💪'), ("new", '🆕'), ("newspaper", '📰'),
  ("ng", '🆖'), ("no_entry", '⛔'), ("no_entry_sign", '🚫'), ("notebook", '📓'), ("o", '⭕'),
  ("o2", '🅾'), ("octopus", '🐙'), ("office", '🏢'), ("ok", '🆗'), ("ok_hand", '👌'), ("on", '🔛'),
  ("open_file_folder", '📂'), ("orange_heart", '🧡'), ("outbox_tray", '📤'), ("owl", '🦉'),
  ("package", '📦'), ("page_facing_up", '📄'), ("palm_tree", '🌴'), ("panda_face", '🐼'),
  ("paperclip", '📎'), ("party_popper", '🎉'), ("peach", '🍑'), ("penguin", '🐧'), ("phone", '☎'),
  ("pig", '🐷'), ("pill", '💊'), ("pineapple", '🍍'), ("pizza", '🍕'), ("poop", '💩'), ("potato", '🥔'),
  ("pray", '🙏'), ("purple_heart", '💜'), ("pushpin", '📌'), ("question", '❓'), ("rabbit", '🐰'),
  ("rage", '😡'), ("rainbow", '🌈'), ("raised_hands", '🙌'), ("recycle", '♻'), ("red_heart", '❤'),
  ("registered", '®'), ("repeat", '🔁'), ("ribbon", '🎀'), ("ring", '💍'), ("robot", '🤖'),
  ("rocket", '🚀'), ("rose", '🌹'), ("runner", '🏃'), ("school", '🏫'), ("scissors", '✂'),
  ("scream", '😱'), ("scroll", '📜'), ("seedling", '🌱'), ("shark", '🦈'), ("sheep", '🐑'),
  ("ship", '🚢'), ("skull", '💀'), ("sleeping", '😴'), ("smile", '😄'), ("smiley", '😃'),
  ("smirk", '😏'), ("snail", '🐌'), ("snake", '🐍'), ("snowflake", '❄'), ("sob", '😭'),
  ("soccer", '⚽'), ("soon", '🔜'), ("sos", '🆘'), ("sparkles", '✨'), ("sparkling_heart", '💖'),
  ("spider", '🕷'), ("star", '⭐'), ("star2", '🌟'), ("stop_sign", '🛑'), ("strawberry", '🍓'),
  ("sun_with_face", '🌞'), ("sunflower", '🌻'), ("sunglasses", '😎'), ("sunny", '☀'), ("sweat", '😓'),
  ("sweat_smile", '😅'), ("tada", '🎉'), ("taxi", '🚕'), ("tea", '🍵'), ("telephone", '☎'),
  ("telescope", '🔭'), ("tent", '⛺'), ("thinking_face", '🤔'), ("thumbs_down", '👎'),
  ("thumbs_up", '👍'), ("thumbsdown", '👎'), ("thumbsup", '👍'), ("tiger", '🐯'), ("tm", '™'),
  ("tomato", '🍅'), ("top", '🔝'), ("tractor", '🚜'), ("triangular_flag_on_post", '🚩'),
  ("trophy", '🏆'), ("truck", '🚚'), ("trumpet", '🎺'), ("tulip", '🌷'), ("turtle", '🐢'), ("tv", '📺'),
  ("unicorn", '🦄'), ("unlock", '🔓'), ("up", '🆙'), ("v", '✌'), ("vampire", '🧛'), ("violin", '🎻'),
  ("volcano", '🌋'), ("vs", '🆚'), ("warning", '⚠'), ("watch", '⌚'), ("watermelon", '🍉'),
  ("wave", '👋'), ("wc", '🚾'), ("whale", '🐳'), ("white_check_mark", '✅'), ("wine_glass", '🍷'),
  ("wink", '😉'), ("wolf", '🐺'), ("woman", '👩'), ("worried", '😟'), ("wrench", '🔧'), ("x", '❌'),
  ("yellow_heart", '💛'), ("yum", '😋'), ("zap", '⚡'), ("zzz", '💤')]

/-- The presentations that a name can ask for. -/
def presentations : List (String × Char) := [("-emoji", '\uFE0F'), ("-text", '\uFE0E')]

/-- A name without its presentation, and the character that asks for it. -/
def splitPresentation (name : List Char) : List Char × List Char :=
  match presentations.find? fun p => p.1.toList.isSuffixOf name with
  | some (ending, mark) => (name.take (name.length - ending.length), [mark])
  | none => (name, [])

def emoji? (name : List Char) : Option (List Char) :=
  let (base, mark) := splitPresentation name
  let key := String.ofList (Text.lower base)
  (emojiNames.find? (·.1 == key)).map fun e => e.2 :: mark

def isNameChar (c : Char) : Bool := c != ':' && !Text.isBlank c

def replaceEmoji : List Char → List Char
  | [] => []
  | c :: rest =>
    if c = ':' then
      let name := rest.takeWhile isNameChar
      match _h : rest.dropWhile isNameChar with
      | ':' :: after => (emoji? name).getD (':' :: name ++ [':']) ++ replaceEmoji after
      | _ => c :: replaceEmoji rest
    else c :: replaceEmoji rest
termination_by s => s.length
decreasing_by
  · have := (List.dropWhile_suffix (l := rest) isNameChar).length_le
    rw [_h] at this
    simp only [List.length_cons] at this ⊢
    omega
  · simp
  · simp

end SchemaAssist.Terminal
