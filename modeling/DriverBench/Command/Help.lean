import DriverBench.Command.Name
/-!
# Help

There is an overview, a text about each command and one about expressions.
-/

namespace DriverBench

/-- The overview of all commands. -/
def helpOverview : String :=
  "コマンド（省略形可）:\n" ++
  "  load [LIB]                  ドライバを読み込む（既定: sim）\n" ++
  "  select [platform|device N]  プラットフォーム・デバイスを選ぶ\n" ++
  "  info [library|platforms|devices]\n" ++
  "                              ドライバの情報を表示\n" ++
  "  list                        束縛済みオブジェクトの一覧\n" ++
  "  set [OPTION BOOL]           オプションの表示・変更\n" ++
  "  release NAME...             束縛を解放\n" ++
  "  save OBJ FILE               オブジェクトをファイルへ保存\n" ++
  "  run KERNEL((G..)[, (L..)][, ARG..])\n" ++
  "                              カーネルを実行\n" ++
  "  bind KERNEL INDEX OBJ...    カーネル引数を設定\n" ++
  "  script FILE                 スクリプトを実行\n" ++
  "  wait | flush                キューの完了待ち・送出\n" ++
  "  help [TOPIC]                ヘルプ（TOPIC: コマンド名か expressions）\n" ++
  "  quit                        終了\n" ++
  "\n" ++
  "代入: NAME = EXPR\n"

/-- Help about expressions. -/
def helpExpressions : String :=
  "式:\n" ++
  "  NAME                               束縛済みオブジェクト\n" ++
  "  (EXPR)                             括弧\n" ++
  "  TYPE(C, ...)                       型付き配列。TYPE は half float double\n" ++
  "                                     char uchar short ushort int uint long ulong\n" ++
  "  file(NAME|\"PATH\"[, start[, len]])  ファイルの内容（.png/.pgm/.ppm は画像）\n" ++
  "  buffer(SIZE) | buffer(DATA[, start[, len]])\n" ++
  "  image(IMAGE) | image(DATA, w, h, ORDER, TYPE)\n" ++
  "                                     ORDER: cl_r cl_ra cl_rgb cl_rgba\n" ++
  "  program(\"SRC\"|DATA[, \"OPTS\"])\n" ++
  "  binary(DATA[, \"OPTS\"])\n" ++
  "  kernel(PROGRAM, NAME)\n" ++
  "  clone(OBJ)\n"

namespace Command

/-- Help about a command. -/
def helpText : Command → String
  | .load =>
    "load [LIB]\n" ++
    "  ドライバライブラリを読み込む。既存のドライバオブジェクトは解放される。\n"
  | .select =>
    "select\n" ++
    "  現在の選択を表示する。\n" ++
    "select platform N | select device N\n" ++
    "  選択を切り替える。ドライバオブジェクトは解放される。\n"
  | .info =>
    "info library | info platforms | info devices\n" ++
    "  ドライバの情報を表示する。省略時はすべて。\n"
  | .list =>
    "list\n" ++
    "  束縛済みオブジェクトの名前と種別を表示する。\n"
  | .set =>
    "set\n" ++
    "  オプションの現在値を表示する。\n" ++
    "set OPTION BOOL\n" ++
    "  OPTION: verbose caret echo block。BOOL: 1 0 y n yes no t f true false\n"
  | .release =>
    "release NAME...\n" ++
    "  名前の束縛を解放する。1 つでも未定義なら何もしない。\n"
  | .save =>
    "save OBJ FILE\n" ++
    "  データ・メモリ・プログラムの内容を保存する。.png/.pgm/.ppm は画像として書く。\n"
  | .run =>
    "run KERNEL((G...)[, (L...)][, ARG...])\n" ++
    "  グローバル・ローカルサイズ（最大 3 次元）でカーネルを実行する。\n" ++
    "  ARG は引数 0 から順に設定される。定数は型付きで書く（例: ulong(16)）。\n"
  | .script =>
    "script FILE\n" ++
    "  各行を実行する。空行と # で始まる行は無視、@ で始まる行は表示しない。\n" ++
    "  最初の失敗で止まる。\n"
  | .wait =>
    "wait\n" ++
    "  投入済みの操作が終わるのを待つ。\n"
  | .flush =>
    "flush\n" ++
    "  投入済みの操作をデバイスへ送る。\n"
  | .bind =>
    "bind KERNEL INDEX OBJ...\n" ++
    "  INDEX から順にカーネル引数を設定する。\n"
  | .help =>
    "help [TOPIC]\n" ++
    "  ヘルプを表示する。\n"
  | .quit =>
    "quit\n" ++
    "  終了する。\n"

end Command

/-- What help can be asked about. -/
inductive HelpTopic where
  | command (c : Command)
  | expressions
  deriving DecidableEq, Repr

namespace HelpTopic

/-- The topics: the commands in their order, then expressions. -/
def all : List HelpTopic :=
  Command.all.map .command ++ [.expressions]

/-- The name of a topic. -/
def name : HelpTopic → String
  | .command c => c.name
  | .expressions => "expressions"

/-- The help about a topic. -/
def text : HelpTopic → String
  | .command c => c.helpText
  | .expressions => helpExpressions

end HelpTopic

end DriverBench
