import Mapsmith.Text.Character

/-!
# Normal forms: the data

What the normal form of a text is computed from, for the characters that can stand in an identifier, as of
Unicode 14: the characters that stand for others, the letters that are one character with a mark, and the
order in which marks follow a letter.
-/

namespace Mapsmith.Text

/-- A run of characters that stand for others. -/
structure ImageRun where
  /-- The first character of the run. -/
  first : Nat
  /-- The last character of the run. -/
  last : Nat
  /-- What the characters stand for, in order, with blanks in between. -/
  images : String
  deriving DecidableEq, Repr

/-- A run of marks of one class. -/
structure MarkRun where
  /-- The first mark of the run. -/
  first : Nat
  /-- The last mark of the run. -/
  last : Nat
  /-- The class, which is the place of the marks behind a letter. -/
  place : Nat
  deriving DecidableEq, Repr

/-- The characters that stand for others, and what they stand for when it is put together again. -/
def imageRuns : List ImageRun :=
  [⟨0x00AA, 0x00AA, "a"⟩, ⟨0x00B5, 0x00B5, "μ"⟩, ⟨0x00BA, 0x00BA, "o"⟩, ⟨0x0132, 0x0133, "IJ ij"⟩,
   ⟨0x013F, 0x0140, "L· l·"⟩, ⟨0x0149, 0x0149, "ʼn"⟩, ⟨0x017F, 0x017F, "s"⟩,
   ⟨0x01C4, 0x01CC, "DŽ Dž dž LJ Lj lj NJ Nj nj"⟩, ⟨0x01F1, 0x01F3, "DZ Dz dz"⟩,
   ⟨0x02B0, 0x02B8, "h ɦ j r ɹ ɻ ʁ w y"⟩, ⟨0x02E0, 0x02E4, "ɣ l s x ʕ"⟩,
   ⟨0x0340, 0x0341, "\u0300 \u0301"⟩, ⟨0x0343, 0x0344, "\u0313 \u0308\u0301"⟩,
   ⟨0x0374, 0x0374, "ʹ"⟩, ⟨0x0387, 0x0387, "·"⟩, ⟨0x03D0, 0x03D6, "β θ Υ Ύ Ϋ φ π"⟩,
   ⟨0x03F0, 0x03F2, "κ ρ ς"⟩, ⟨0x03F4, 0x03F5, "Θ ε"⟩, ⟨0x03F9, 0x03F9, "Σ"⟩,
   ⟨0x0587, 0x0587, "եւ"⟩,
   ⟨0x0675, 0x0678, "\u0627\u0674 \u0648\u0674 \u06c7\u0674 \u064a\u0674"⟩,
   ⟨0x0958, 0x095F, "क\u093c ख\u093c ग\u093c ज\u093c ड\u093c ढ\u093c फ\u093c य\u093c"⟩,
   ⟨0x09DC, 0x09DD, "ড\u09bc ঢ\u09bc"⟩, ⟨0x09DF, 0x09DF, "য\u09bc"⟩, ⟨0x0A33, 0x0A33, "ਲ\u0a3c"⟩,
   ⟨0x0A36, 0x0A36, "ਸ\u0a3c"⟩, ⟨0x0A59, 0x0A5B, "ਖ\u0a3c ਗ\u0a3c ਜ\u0a3c"⟩,
   ⟨0x0A5E, 0x0A5E, "ਫ\u0a3c"⟩, ⟨0x0B5C, 0x0B5D, "ଡ\u0b3c ଢ\u0b3c"⟩, ⟨0x0E33, 0x0E33, "\u0e4dา"⟩,
   ⟨0x0EB3, 0x0EB3, "\u0ecdາ"⟩, ⟨0x0EDC, 0x0EDD, "ຫນ ຫມ"⟩, ⟨0x0F43, 0x0F43, "ག\u0fb7"⟩,
   ⟨0x0F4D, 0x0F4D, "ཌ\u0fb7"⟩, ⟨0x0F52, 0x0F52, "ད\u0fb7"⟩, ⟨0x0F57, 0x0F57, "བ\u0fb7"⟩,
   ⟨0x0F5C, 0x0F5C, "ཛ\u0fb7"⟩, ⟨0x0F69, 0x0F69, "ཀ\u0fb5"⟩, ⟨0x0F73, 0x0F73, "\u0f71\u0f72"⟩,
   ⟨0x0F75, 0x0F78, "\u0f71\u0f74 \u0fb2\u0f80 \u0fb2\u0f71\u0f80 \u0fb3\u0f80"⟩,
   ⟨0x0F79, 0x0F79, "\u0fb3\u0f71\u0f80"⟩, ⟨0x0F81, 0x0F81, "\u0f71\u0f80"⟩,
   ⟨0x0F93, 0x0F93, "\u0f92\u0fb7"⟩, ⟨0x0F9D, 0x0F9D, "\u0f9c\u0fb7"⟩,
   ⟨0x0FA2, 0x0FA2, "\u0fa1\u0fb7"⟩, ⟨0x0FA7, 0x0FA7, "\u0fa6\u0fb7"⟩,
   ⟨0x0FAC, 0x0FAC, "\u0fab\u0fb7"⟩, ⟨0x0FB9, 0x0FB9, "\u0f90\u0fb5"⟩, ⟨0x10FC, 0x10FC, "ნ"⟩,
   ⟨0x1D2C, 0x1D2E, "A Æ B"⟩, ⟨0x1D30, 0x1D3A, "D E Ǝ G H I J K L M N"⟩,
   ⟨0x1D3C, 0x1D4D, "O Ȣ P R T U W a ɐ ɑ ᴂ b d e ə ɛ ɜ g"⟩,
   ⟨0x1D4F, 0x1D6A, "k m ŋ o ɔ ᴖ ᴗ p t u ᴝ ɯ v ᴥ β γ δ φ χ i r u v β γ ρ φ χ"⟩,
   ⟨0x1D78, 0x1D78, "н"⟩,
   ⟨0x1D9B, 0x1DBD, "ɒ c ɕ ð ɜ f ɟ ɡ ɥ ɨ ɩ ɪ ᵻ ʝ ɭ ᶅ ʟ ɱ ɰ ɲ ɳ ɴ ɵ ɸ ʂ ʃ ƫ ʉ ʊ ᴜ ʋ ʌ z ʐ ʑ"⟩,
   ⟨0x1DBE, 0x1DBF, "ʒ θ"⟩, ⟨0x1E9A, 0x1E9B, "aʾ ṡ"⟩, ⟨0x1F71, 0x1F71, "ά"⟩,
   ⟨0x1F73, 0x1F73, "έ"⟩, ⟨0x1F75, 0x1F75, "ή"⟩, ⟨0x1F77, 0x1F77, "ί"⟩, ⟨0x1F79, 0x1F79, "ό"⟩,
   ⟨0x1F7B, 0x1F7B, "ύ"⟩, ⟨0x1F7D, 0x1F7D, "ώ"⟩, ⟨0x1FBB, 0x1FBB, "Ά"⟩, ⟨0x1FBE, 0x1FBE, "ι"⟩,
   ⟨0x1FC9, 0x1FC9, "Έ"⟩, ⟨0x1FCB, 0x1FCB, "Ή"⟩, ⟨0x1FD3, 0x1FD3, "ΐ"⟩, ⟨0x1FDB, 0x1FDB, "Ί"⟩,
   ⟨0x1FE3, 0x1FE3, "ΰ"⟩, ⟨0x1FEB, 0x1FEB, "Ύ"⟩, ⟨0x1FF9, 0x1FF9, "Ό"⟩, ⟨0x1FFB, 0x1FFB, "Ώ"⟩,
   ⟨0x2071, 0x2071, "i"⟩, ⟨0x207F, 0x207F, "n"⟩, ⟨0x2090, 0x209C, "a e o x ə h k l m n p s t"⟩,
   ⟨0x2102, 0x2102, "C"⟩, ⟨0x2107, 0x2107, "Ɛ"⟩, ⟨0x210A, 0x2113, "g H H H h ħ I I L l"⟩,
   ⟨0x2115, 0x2115, "N"⟩, ⟨0x2119, 0x211D, "P Q R R R"⟩, ⟨0x2124, 0x2124, "Z"⟩,
   ⟨0x2126, 0x2126, "Ω"⟩, ⟨0x2128, 0x2128, "Z"⟩, ⟨0x212A, 0x212D, "K Å B C"⟩,
   ⟨0x212F, 0x2131, "e E F"⟩, ⟨0x2133, 0x2139, "M o \u05d0 \u05d1 \u05d2 \u05d3 i"⟩,
   ⟨0x213C, 0x213F, "π γ Γ Π"⟩, ⟨0x2145, 0x2149, "D d e i j"⟩,
   ⟨0x2160, 0x2176, "I II III IV V VI VII VIII IX X XI XII L C D M i ii iii iv v vi vii"⟩,
   ⟨0x2177, 0x217F, "viii ix x xi xii l c d m"⟩, ⟨0x2C7C, 0x2C7D, "j V"⟩, ⟨0x2D6F, 0x2D6F, "ⵡ"⟩,
   ⟨0x3038, 0x303A, "十 卄 卅"⟩, ⟨0x309F, 0x309F, "より"⟩, ⟨0x30FF, 0x30FF, "コト"⟩,
   ⟨0x3131, 0x3153, "ᄀ ᄁ ᆪ ᄂ ᆬ ᆭ ᄃ ᄄ ᄅ ᆰ ᆱ ᆲ ᆳ ᆴ ᆵ ᄚ ᄆ ᄇ ᄈ ᄡ ᄉ ᄊ ᄋ ᄌ ᄍ ᄎ ᄏ ᄐ ᄑ ᄒ ᅡ ᅢ ᅣ ᅤ ᅥ"⟩,
   ⟨0x3154, 0x3176, "ᅦ ᅧ ᅨ ᅩ ᅪ ᅫ ᅬ ᅭ ᅮ ᅯ ᅰ ᅱ ᅲ ᅳ ᅴ ᅵ ᅠ ᄔ ᄕ ᇇ ᇈ ᇌ ᇎ ᇓ ᇗ ᇙ ᄜ ᇝ ᇟ ᄝ ᄞ ᄠ ᄢ ᄣ ᄧ"⟩,
   ⟨0x3177, 0x318E, "ᄩ ᄫ ᄬ ᄭ ᄮ ᄯ ᄲ ᄶ ᅀ ᅇ ᅌ ᇱ ᇲ ᅗ ᅘ ᅙ ᆄ ᆅ ᆈ ᆑ ᆒ ᆔ ᆞ ᆡ"⟩, ⟨0xA69C, 0xA69D, "ъ ь"⟩,
   ⟨0xA770, 0xA770, "ꝯ"⟩, ⟨0xA7F2, 0xA7F4, "C F Q"⟩, ⟨0xA7F8, 0xA7F9, "Ħ œ"⟩,
   ⟨0xAB5C, 0xAB5F, "ꜧ ꬷ ɫ ꭒ"⟩, ⟨0xAB69, 0xAB69, "ʍ"⟩,
   ⟨0xF900, 0xF922, "豈 更 車 賈 滑 串 句 龜 龜 契 金 喇 奈 懶 癩 羅 蘿 螺 裸 邏 樂 洛 烙 珞 落 酪 駱 亂 卵 欄 爛 蘭 鸞 嵐 濫"⟩,
   ⟨0xF923, 0xF945, "藍 襤 拉 臘 蠟 廊 朗 浪 狼 郎 來 冷 勞 擄 櫓 爐 盧 老 蘆 虜 路 露 魯 鷺 碌 祿 綠 菉 錄 鹿 論 壟 弄 籠 聾"⟩,
   ⟨0xF946, 0xF968, "牢 磊 賂 雷 壘 屢 樓 淚 漏 累 縷 陋 勒 肋 凜 凌 稜 綾 菱 陵 讀 拏 樂 諾 丹 寧 怒 率 異 北 磻 便 復 不 泌"⟩,
   ⟨0xF969, 0xF98B, "數 索 參 塞 省 葉 說 殺 辰 沈 拾 若 掠 略 亮 兩 凉 梁 糧 良 諒 量 勵 呂 女 廬 旅 濾 礪 閭 驪 麗 黎 力 曆"⟩,
   ⟨0xF98C, 0xF9AE, "歷 轢 年 憐 戀 撚 漣 煉 璉 秊 練 聯 輦 蓮 連 鍊 列 劣 咽 烈 裂 說 廉 念 捻 殮 簾 獵 令 囹 寧 嶺 怜 玲 瑩"⟩,
   ⟨0xF9AF, 0xF9D1, "羚 聆 鈴 零 靈 領 例 禮 醴 隸 惡 了 僚 寮 尿 料 樂 燎 療 蓼 遼 龍 暈 阮 劉 杻 柳 流 溜 琉 留 硫 紐 類 六"⟩,
   ⟨0xF9D2, 0xF9F4, "戮 陸 倫 崙 淪 輪 律 慄 栗 率 隆 利 吏 履 易 李 梨 泥 理 痢 罹 裏 裡 里 離 匿 溺 吝 燐 璘 藺 隣 鱗 麟 林"⟩,
   ⟨0xF9F5, 0xFA0D, "淋 臨 立 笠 粒 狀 炙 識 什 茶 刺 切 度 拓 糖 宅 洞 暴 輻 行 降 見 廓 兀 嗀"⟩, ⟨0xFA10, 0xFA10, "塚"⟩,
   ⟨0xFA12, 0xFA12, "晴"⟩, ⟨0xFA15, 0xFA1E, "凞 猪 益 礼 神 祥 福 靖 精 羽"⟩, ⟨0xFA20, 0xFA20, "蘒"⟩,
   ⟨0xFA22, 0xFA22, "諸"⟩, ⟨0xFA25, 0xFA26, "逸 都"⟩,
   ⟨0xFA2A, 0xFA4C, "飯 飼 館 鶴 郞 隷 侮 僧 免 勉 勤 卑 喝 嘆 器 塀 墨 層 屮 悔 慨 憎 懲 敏 既 暑 梅 海 渚 漢 煮 爫 琢 碑 社"⟩,
   ⟨0xFA4D, 0xFA6D, "祉 祈 祐 祖 祝 禍 禎 穀 突 節 練 縉 繁 署 者 臭 艹 艹 著 褐 視 謁 謹 賓 贈 辶 逸 難 響 頻 恵 𤋮 舘"⟩,
   ⟨0xFA70, 0xFA92, "並 况 全 侀 充 冀 勇 勺 喝 啕 喙 嗢 塚 墳 奄 奔 婢 嬨 廒 廙 彩 徭 惘 慎 愈 憎 慠 懲 戴 揄 搜 摒 敖 晴 朗"⟩,
   ⟨0xFA93, 0xFAB5, "望 杖 歹 殺 流 滛 滋 漢 瀞 煮 瞧 爵 犯 猪 瑱 甆 画 瘝 瘟 益 盛 直 睊 着 磌 窱 節 类 絛 練 缾 者 荒 華 蝹"⟩,
   ⟨0xFAB6, 0xFAD8, "襁 覆 視 調 諸 請 謁 諾 諭 謹 變 贈 輸 遲 醙 鉶 陼 難 靖 韛 響 頋 頻 鬒 龜 𢡊 𢡄 𣏕 㮝 䀘 䀹 𥉉 𥳐 𧻓 齃"⟩,
   ⟨0xFAD9, 0xFAD9, "龎"⟩, ⟨0xFB00, 0xFB06, "ff fi fl ffi ffl st st"⟩,
   ⟨0xFB13, 0xFB17, "մն մե մի վն մխ"⟩, ⟨0xFB1D, 0xFB1D, "\u05d9\u05b4"⟩,
   ⟨0xFB1F, 0xFB27, "\u05f2\u05b7 \u05e2 \u05d0 \u05d3 \u05d4 \u05db \u05dc \u05dd \u05e8"⟩,
   ⟨0xFB28, 0xFB28, "\u05ea"⟩,
   ⟨0xFB2A, 0xFB2D, "\u05e9\u05c1 \u05e9\u05c2 \u05e9\u05bc\u05c1 \u05e9\u05bc\u05c2"⟩,
   ⟨0xFB2E, 0xFB32, "\u05d0\u05b7 \u05d0\u05b8 \u05d0\u05bc \u05d1\u05bc \u05d2\u05bc"⟩,
   ⟨0xFB33, 0xFB36, "\u05d3\u05bc \u05d4\u05bc \u05d5\u05bc \u05d6\u05bc"⟩,
   ⟨0xFB38, 0xFB3C, "\u05d8\u05bc \u05d9\u05bc \u05da\u05bc \u05db\u05bc \u05dc\u05bc"⟩,
   ⟨0xFB3E, 0xFB3E, "\u05de\u05bc"⟩, ⟨0xFB40, 0xFB41, "\u05e0\u05bc \u05e1\u05bc"⟩,
   ⟨0xFB43, 0xFB44, "\u05e3\u05bc \u05e4\u05bc"⟩,
   ⟨0xFB46, 0xFB4A, "\u05e6\u05bc \u05e7\u05bc \u05e8\u05bc \u05e9\u05bc \u05ea\u05bc"⟩,
   ⟨0xFB4B, 0xFB4F, "\u05d5\u05b9 \u05d1\u05bf \u05db\u05bf \u05e4\u05bf \u05d0\u05dc"⟩,
   ⟨0xFB50, 0xFB59, "\u0671 \u0671 \u067b \u067b \u067b \u067b \u067e \u067e \u067e \u067e"⟩,
   ⟨0xFB5A, 0xFB63, "\u0680 \u0680 \u0680 \u0680 \u067a \u067a \u067a \u067a \u067f \u067f"⟩,
   ⟨0xFB64, 0xFB6D, "\u067f \u067f \u0679 \u0679 \u0679 \u0679 \u06a4 \u06a4 \u06a4 \u06a4"⟩,
   ⟨0xFB6E, 0xFB77, "\u06a6 \u06a6 \u06a6 \u06a6 \u0684 \u0684 \u0684 \u0684 \u0683 \u0683"⟩,
   ⟨0xFB78, 0xFB81, "\u0683 \u0683 \u0686 \u0686 \u0686 \u0686 \u0687 \u0687 \u0687 \u0687"⟩,
   ⟨0xFB82, 0xFB8B, "\u068d \u068d \u068c \u068c \u068e \u068e \u0688 \u0688 \u0698 \u0698"⟩,
   ⟨0xFB8C, 0xFB95, "\u0691 \u0691 \u06a9 \u06a9 \u06a9 \u06a9 \u06af \u06af \u06af \u06af"⟩,
   ⟨0xFB96, 0xFB9F, "\u06b3 \u06b3 \u06b3 \u06b3 \u06b1 \u06b1 \u06b1 \u06b1 \u06ba \u06ba"⟩,
   ⟨0xFBA0, 0xFBA9, "\u06bb \u06bb \u06bb \u06bb \u06c0 \u06c0 \u06c1 \u06c1 \u06c1 \u06c1"⟩,
   ⟨0xFBAA, 0xFBB1, "\u06be \u06be \u06be \u06be \u06d2 \u06d2 \u06d3 \u06d3"⟩,
   ⟨0xFBD3, 0xFBDC, "\u06ad \u06ad \u06ad \u06ad \u06c7 \u06c7 \u06c6 \u06c6 \u06c8 \u06c8"⟩,
   ⟨0xFBDD, 0xFBE5, "\u06c7\u0674 \u06cb \u06cb \u06c5 \u06c5 \u06c9 \u06c9 \u06d0 \u06d0"⟩,
   ⟨0xFBE6, 0xFBEC, "\u06d0 \u06d0 \u0649 \u0649 \u0626\u0627 \u0626\u0627 \u0626\u06d5"⟩,
   ⟨0xFBED, 0xFBF1, "\u0626\u06d5 \u0626\u0648 \u0626\u0648 \u0626\u06c7 \u0626\u06c7"⟩,
   ⟨0xFBF2, 0xFBF6, "\u0626\u06c6 \u0626\u06c6 \u0626\u06c8 \u0626\u06c8 \u0626\u06d0"⟩,
   ⟨0xFBF7, 0xFBFB, "\u0626\u06d0 \u0626\u06d0 \u0626\u0649 \u0626\u0649 \u0626\u0649"⟩,
   ⟨0xFBFC, 0xFC02, "\u06cc \u06cc \u06cc \u06cc \u0626\u062c \u0626\u062d \u0626\u0645"⟩,
   ⟨0xFC03, 0xFC07, "\u0626\u0649 \u0626\u064a \u0628\u062c \u0628\u062d \u0628\u062e"⟩,
   ⟨0xFC08, 0xFC0C, "\u0628\u0645 \u0628\u0649 \u0628\u064a \u062a\u062c \u062a\u062d"⟩,
   ⟨0xFC0D, 0xFC11, "\u062a\u062e \u062a\u0645 \u062a\u0649 \u062a\u064a \u062b\u062c"⟩,
   ⟨0xFC12, 0xFC16, "\u062b\u0645 \u062b\u0649 \u062b\u064a \u062c\u062d \u062c\u0645"⟩,
   ⟨0xFC17, 0xFC1B, "\u062d\u062c \u062d\u0645 \u062e\u062c \u062e\u062d \u062e\u0645"⟩,
   ⟨0xFC1C, 0xFC20, "\u0633\u062c \u0633\u062d \u0633\u062e \u0633\u0645 \u0635\u062d"⟩,
   ⟨0xFC21, 0xFC25, "\u0635\u0645 \u0636\u062c \u0636\u062d \u0636\u062e \u0636\u0645"⟩,
   ⟨0xFC26, 0xFC2A, "\u0637\u062d \u0637\u0645 \u0638\u0645 \u0639\u062c \u0639\u0645"⟩,
   ⟨0xFC2B, 0xFC2F, "\u063a\u062c \u063a\u0645 \u0641\u062c \u0641\u062d \u0641\u062e"⟩,
   ⟨0xFC30, 0xFC34, "\u0641\u0645 \u0641\u0649 \u0641\u064a \u0642\u062d \u0642\u0645"⟩,
   ⟨0xFC35, 0xFC39, "\u0642\u0649 \u0642\u064a \u0643\u0627 \u0643\u062c \u0643\u062d"⟩,
   ⟨0xFC3A, 0xFC3E, "\u0643\u062e \u0643\u0644 \u0643\u0645 \u0643\u0649 \u0643\u064a"⟩,
   ⟨0xFC3F, 0xFC43, "\u0644\u062c \u0644\u062d \u0644\u062e \u0644\u0645 \u0644\u0649"⟩,
   ⟨0xFC44, 0xFC48, "\u0644\u064a \u0645\u062c \u0645\u062d \u0645\u062e \u0645\u0645"⟩,
   ⟨0xFC49, 0xFC4D, "\u0645\u0649 \u0645\u064a \u0646\u062c \u0646\u062d \u0646\u062e"⟩,
   ⟨0xFC4E, 0xFC52, "\u0646\u0645 \u0646\u0649 \u0646\u064a \u0647\u062c \u0647\u0645"⟩,
   ⟨0xFC53, 0xFC57, "\u0647\u0649 \u0647\u064a \u064a\u062c \u064a\u062d \u064a\u062e"⟩,
   ⟨0xFC58, 0xFC5C, "\u064a\u0645 \u064a\u0649 \u064a\u064a \u0630\u0670 \u0631\u0670"⟩,
   ⟨0xFC5D, 0xFC5D, "\u0649\u0670"⟩,
   ⟨0xFC64, 0xFC68, "\u0626\u0631 \u0626\u0632 \u0626\u0645 \u0626\u0646 \u0626\u0649"⟩,
   ⟨0xFC69, 0xFC6D, "\u0626\u064a \u0628\u0631 \u0628\u0632 \u0628\u0645 \u0628\u0646"⟩,
   ⟨0xFC6E, 0xFC72, "\u0628\u0649 \u0628\u064a \u062a\u0631 \u062a\u0632 \u062a\u0645"⟩,
   ⟨0xFC73, 0xFC77, "\u062a\u0646 \u062a\u0649 \u062a\u064a \u062b\u0631 \u062b\u0632"⟩,
   ⟨0xFC78, 0xFC7C, "\u062b\u0645 \u062b\u0646 \u062b\u0649 \u062b\u064a \u0641\u0649"⟩,
   ⟨0xFC7D, 0xFC81, "\u0641\u064a \u0642\u0649 \u0642\u064a \u0643\u0627 \u0643\u0644"⟩,
   ⟨0xFC82, 0xFC86, "\u0643\u0645 \u0643\u0649 \u0643\u064a \u0644\u0645 \u0644\u0649"⟩,
   ⟨0xFC87, 0xFC8B, "\u0644\u064a \u0645\u0627 \u0645\u0645 \u0646\u0631 \u0646\u0632"⟩,
   ⟨0xFC8C, 0xFC90, "\u0646\u0645 \u0646\u0646 \u0646\u0649 \u0646\u064a \u0649\u0670"⟩,
   ⟨0xFC91, 0xFC95, "\u064a\u0631 \u064a\u0632 \u064a\u0645 \u064a\u0646 \u064a\u0649"⟩,
   ⟨0xFC96, 0xFC9A, "\u064a\u064a \u0626\u062c \u0626\u062d \u0626\u062e \u0626\u0645"⟩,
   ⟨0xFC9B, 0xFC9F, "\u0626\u0647 \u0628\u062c \u0628\u062d \u0628\u062e \u0628\u0645"⟩,
   ⟨0xFCA0, 0xFCA4, "\u0628\u0647 \u062a\u062c \u062a\u062d \u062a\u062e \u062a\u0645"⟩,
   ⟨0xFCA5, 0xFCA9, "\u062a\u0647 \u062b\u0645 \u062c\u062d \u062c\u0645 \u062d\u062c"⟩,
   ⟨0xFCAA, 0xFCAE, "\u062d\u0645 \u062e\u062c \u062e\u0645 \u0633\u062c \u0633\u062d"⟩,
   ⟨0xFCAF, 0xFCB3, "\u0633\u062e \u0633\u0645 \u0635\u062d \u0635\u062e \u0635\u0645"⟩,
   ⟨0xFCB4, 0xFCB8, "\u0636\u062c \u0636\u062d \u0636\u062e \u0636\u0645 \u0637\u062d"⟩,
   ⟨0xFCB9, 0xFCBD, "\u0638\u0645 \u0639\u062c \u0639\u0645 \u063a\u062c \u063a\u0645"⟩,
   ⟨0xFCBE, 0xFCC2, "\u0641\u062c \u0641\u062d \u0641\u062e \u0641\u0645 \u0642\u062d"⟩,
   ⟨0xFCC3, 0xFCC7, "\u0642\u0645 \u0643\u062c \u0643\u062d \u0643\u062e \u0643\u0644"⟩,
   ⟨0xFCC8, 0xFCCC, "\u0643\u0645 \u0644\u062c \u0644\u062d \u0644\u062e \u0644\u0645"⟩,
   ⟨0xFCCD, 0xFCD1, "\u0644\u0647 \u0645\u062c \u0645\u062d \u0645\u062e \u0645\u0645"⟩,
   ⟨0xFCD2, 0xFCD6, "\u0646\u062c \u0646\u062d \u0646\u062e \u0646\u0645 \u0646\u0647"⟩,
   ⟨0xFCD7, 0xFCDB, "\u0647\u062c \u0647\u0645 \u0647\u0670 \u064a\u062c \u064a\u062d"⟩,
   ⟨0xFCDC, 0xFCE0, "\u064a\u062e \u064a\u0645 \u064a\u0647 \u0626\u0645 \u0626\u0647"⟩,
   ⟨0xFCE1, 0xFCE5, "\u0628\u0645 \u0628\u0647 \u062a\u0645 \u062a\u0647 \u062b\u0645"⟩,
   ⟨0xFCE6, 0xFCEA, "\u062b\u0647 \u0633\u0645 \u0633\u0647 \u0634\u0645 \u0634\u0647"⟩,
   ⟨0xFCEB, 0xFCEF, "\u0643\u0644 \u0643\u0645 \u0644\u0645 \u0646\u0645 \u0646\u0647"⟩,
   ⟨0xFCF0, 0xFCF3, "\u064a\u0645 \u064a\u0647 \u0640\u064e\u0651 \u0640\u064f\u0651"⟩,
   ⟨0xFCF4, 0xFCF8, "\u0640\u0650\u0651 \u0637\u0649 \u0637\u064a \u0639\u0649 \u0639\u064a"⟩,
   ⟨0xFCF9, 0xFCFD, "\u063a\u0649 \u063a\u064a \u0633\u0649 \u0633\u064a \u0634\u0649"⟩,
   ⟨0xFCFE, 0xFD02, "\u0634\u064a \u062d\u0649 \u062d\u064a \u062c\u0649 \u062c\u064a"⟩,
   ⟨0xFD03, 0xFD07, "\u062e\u0649 \u062e\u064a \u0635\u0649 \u0635\u064a \u0636\u0649"⟩,
   ⟨0xFD08, 0xFD0C, "\u0636\u064a \u0634\u062c \u0634\u062d \u0634\u062e \u0634\u0645"⟩,
   ⟨0xFD0D, 0xFD11, "\u0634\u0631 \u0633\u0631 \u0635\u0631 \u0636\u0631 \u0637\u0649"⟩,
   ⟨0xFD12, 0xFD16, "\u0637\u064a \u0639\u0649 \u0639\u064a \u063a\u0649 \u063a\u064a"⟩,
   ⟨0xFD17, 0xFD1B, "\u0633\u0649 \u0633\u064a \u0634\u0649 \u0634\u064a \u062d\u0649"⟩,
   ⟨0xFD1C, 0xFD20, "\u062d\u064a \u062c\u0649 \u062c\u064a \u062e\u0649 \u062e\u064a"⟩,
   ⟨0xFD21, 0xFD25, "\u0635\u0649 \u0635\u064a \u0636\u0649 \u0636\u064a \u0634\u062c"⟩,
   ⟨0xFD26, 0xFD2A, "\u0634\u062d \u0634\u062e \u0634\u0645 \u0634\u0631 \u0633\u0631"⟩,
   ⟨0xFD2B, 0xFD2F, "\u0635\u0631 \u0636\u0631 \u0634\u062c \u0634\u062d \u0634\u062e"⟩,
   ⟨0xFD30, 0xFD34, "\u0634\u0645 \u0633\u0647 \u0634\u0647 \u0637\u0645 \u0633\u062c"⟩,
   ⟨0xFD35, 0xFD39, "\u0633\u062d \u0633\u062e \u0634\u062c \u0634\u062d \u0634\u062e"⟩,
   ⟨0xFD3A, 0xFD3D, "\u0637\u0645 \u0638\u0645 \u0627\u064b \u0627\u064b"⟩,
   ⟨0xFD50, 0xFD52, "\u062a\u062c\u0645 \u062a\u062d\u062c \u062a\u062d\u062c"⟩,
   ⟨0xFD53, 0xFD55, "\u062a\u062d\u0645 \u062a\u062e\u0645 \u062a\u0645\u062c"⟩,
   ⟨0xFD56, 0xFD58, "\u062a\u0645\u062d \u062a\u0645\u062e \u062c\u0645\u062d"⟩,
   ⟨0xFD59, 0xFD5B, "\u062c\u0645\u062d \u062d\u0645\u064a \u062d\u0645\u0649"⟩,
   ⟨0xFD5C, 0xFD5E, "\u0633\u062d\u062c \u0633\u062c\u062d \u0633\u062c\u0649"⟩,
   ⟨0xFD5F, 0xFD61, "\u0633\u0645\u062d \u0633\u0645\u062d \u0633\u0645\u062c"⟩,
   ⟨0xFD62, 0xFD64, "\u0633\u0645\u0645 \u0633\u0645\u0645 \u0635\u062d\u062d"⟩,
   ⟨0xFD65, 0xFD67, "\u0635\u062d\u062d \u0635\u0645\u0645 \u0634\u062d\u0645"⟩,
   ⟨0xFD68, 0xFD6A, "\u0634\u062d\u0645 \u0634\u062c\u064a \u0634\u0645\u062e"⟩,
   ⟨0xFD6B, 0xFD6D, "\u0634\u0645\u062e \u0634\u0645\u0645 \u0634\u0645\u0645"⟩,
   ⟨0xFD6E, 0xFD70, "\u0636\u062d\u0649 \u0636\u062e\u0645 \u0636\u062e\u0645"⟩,
   ⟨0xFD71, 0xFD73, "\u0637\u0645\u062d \u0637\u0645\u062d \u0637\u0645\u0645"⟩,
   ⟨0xFD74, 0xFD76, "\u0637\u0645\u064a \u0639\u062c\u0645 \u0639\u0645\u0645"⟩,
   ⟨0xFD77, 0xFD79, "\u0639\u0645\u0645 \u0639\u0645\u0649 \u063a\u0645\u0645"⟩,
   ⟨0xFD7A, 0xFD7C, "\u063a\u0645\u064a \u063a\u0645\u0649 \u0641\u062e\u0645"⟩,
   ⟨0xFD7D, 0xFD7F, "\u0641\u062e\u0645 \u0642\u0645\u062d \u0642\u0645\u0645"⟩,
   ⟨0xFD80, 0xFD82, "\u0644\u062d\u0645 \u0644\u062d\u064a \u0644\u062d\u0649"⟩,
   ⟨0xFD83, 0xFD85, "\u0644\u062c\u062c \u0644\u062c\u062c \u0644\u062e\u0645"⟩,
   ⟨0xFD86, 0xFD88, "\u0644\u062e\u0645 \u0644\u0645\u062d \u0644\u0645\u062d"⟩,
   ⟨0xFD89, 0xFD8B, "\u0645\u062d\u062c \u0645\u062d\u0645 \u0645\u062d\u064a"⟩,
   ⟨0xFD8C, 0xFD8E, "\u0645\u062c\u062d \u0645\u062c\u0645 \u0645\u062e\u062c"⟩,
   ⟨0xFD8F, 0xFD8F, "\u0645\u062e\u0645"⟩,
   ⟨0xFD92, 0xFD94, "\u0645\u062c\u062e \u0647\u0645\u062c \u0647\u0645\u0645"⟩,
   ⟨0xFD95, 0xFD97, "\u0646\u062d\u0645 \u0646\u062d\u0649 \u0646\u062c\u0645"⟩,
   ⟨0xFD98, 0xFD9A, "\u0646\u062c\u0645 \u0646\u062c\u0649 \u0646\u0645\u064a"⟩,
   ⟨0xFD9B, 0xFD9D, "\u0646\u0645\u0649 \u064a\u0645\u0645 \u064a\u0645\u0645"⟩,
   ⟨0xFD9E, 0xFDA0, "\u0628\u062e\u064a \u062a\u062c\u064a \u062a\u062c\u0649"⟩,
   ⟨0xFDA1, 0xFDA3, "\u062a\u062e\u064a \u062a\u062e\u0649 \u062a\u0645\u064a"⟩,
   ⟨0xFDA4, 0xFDA6, "\u062a\u0645\u0649 \u062c\u0645\u064a \u062c\u062d\u0649"⟩,
   ⟨0xFDA7, 0xFDA9, "\u062c\u0645\u0649 \u0633\u062e\u0649 \u0635\u062d\u064a"⟩,
   ⟨0xFDAA, 0xFDAC, "\u0634\u062d\u064a \u0636\u062d\u064a \u0644\u062c\u064a"⟩,
   ⟨0xFDAD, 0xFDAF, "\u0644\u0645\u064a \u064a\u062d\u064a \u064a\u062c\u064a"⟩,
   ⟨0xFDB0, 0xFDB2, "\u064a\u0645\u064a \u0645\u0645\u064a \u0642\u0645\u064a"⟩,
   ⟨0xFDB3, 0xFDB5, "\u0646\u062d\u064a \u0642\u0645\u062d \u0644\u062d\u0645"⟩,
   ⟨0xFDB6, 0xFDB8, "\u0639\u0645\u064a \u0643\u0645\u064a \u0646\u062c\u062d"⟩,
   ⟨0xFDB9, 0xFDBB, "\u0645\u062e\u064a \u0644\u062c\u0645 \u0643\u0645\u0645"⟩,
   ⟨0xFDBC, 0xFDBE, "\u0644\u062c\u0645 \u0646\u062c\u062d \u062c\u062d\u064a"⟩,
   ⟨0xFDBF, 0xFDC1, "\u062d\u062c\u064a \u0645\u062c\u064a \u0641\u0645\u064a"⟩,
   ⟨0xFDC2, 0xFDC4, "\u0628\u062d\u064a \u0643\u0645\u0645 \u0639\u062c\u0645"⟩,
   ⟨0xFDC5, 0xFDC7, "\u0635\u0645\u0645 \u0633\u062e\u064a \u0646\u062c\u064a"⟩,
   ⟨0xFDF0, 0xFDF2, "\u0635\u0644\u06d2 \u0642\u0644\u06d2 \u0627\u0644\u0644\u0647"⟩,
   ⟨0xFDF3, 0xFDF4, "\u0627\u0643\u0628\u0631 \u0645\u062d\u0645\u062f"⟩,
   ⟨0xFDF5, 0xFDF6, "\u0635\u0644\u0639\u0645 \u0631\u0633\u0648\u0644"⟩,
   ⟨0xFDF7, 0xFDF9, "\u0639\u0644\u064a\u0647 \u0648\u0633\u0644\u0645 \u0635\u0644\u0649"⟩,
   ⟨0xFE33, 0xFE34, "_ _"⟩, ⟨0xFE4D, 0xFE4F, "_ _ _"⟩, ⟨0xFE71, 0xFE71, "\u0640\u064b"⟩,
   ⟨0xFE77, 0xFE77, "\u0640\u064e"⟩, ⟨0xFE79, 0xFE79, "\u0640\u064f"⟩,
   ⟨0xFE7B, 0xFE7B, "\u0640\u0650"⟩, ⟨0xFE7D, 0xFE7D, "\u0640\u0651"⟩,
   ⟨0xFE7F, 0xFE87, "\u0640\u0652 \u0621 \u0622 \u0622 \u0623 \u0623 \u0624 \u0624 \u0625"⟩,
   ⟨0xFE88, 0xFE91, "\u0625 \u0626 \u0626 \u0626 \u0626 \u0627 \u0627 \u0628 \u0628 \u0628"⟩,
   ⟨0xFE92, 0xFE9B, "\u0628 \u0629 \u0629 \u062a \u062a \u062a \u062a \u062b \u062b \u062b"⟩,
   ⟨0xFE9C, 0xFEA5, "\u062b \u062c \u062c \u062c \u062c \u062d \u062d \u062d \u062d \u062e"⟩,
   ⟨0xFEA6, 0xFEAF, "\u062e \u062e \u062e \u062f \u062f \u0630 \u0630 \u0631 \u0631 \u0632"⟩,
   ⟨0xFEB0, 0xFEB9, "\u0632 \u0633 \u0633 \u0633 \u0633 \u0634 \u0634 \u0634 \u0634 \u0635"⟩,
   ⟨0xFEBA, 0xFEC3, "\u0635 \u0635 \u0635 \u0636 \u0636 \u0636 \u0636 \u0637 \u0637 \u0637"⟩,
   ⟨0xFEC4, 0xFECD, "\u0637 \u0638 \u0638 \u0638 \u0638 \u0639 \u0639 \u0639 \u0639 \u063a"⟩,
   ⟨0xFECE, 0xFED7, "\u063a \u063a \u063a \u0641 \u0641 \u0641 \u0641 \u0642 \u0642 \u0642"⟩,
   ⟨0xFED8, 0xFEE1, "\u0642 \u0643 \u0643 \u0643 \u0643 \u0644 \u0644 \u0644 \u0644 \u0645"⟩,
   ⟨0xFEE2, 0xFEEB, "\u0645 \u0645 \u0645 \u0646 \u0646 \u0646 \u0646 \u0647 \u0647 \u0647"⟩,
   ⟨0xFEEC, 0xFEF4, "\u0647 \u0648 \u0648 \u0649 \u0649 \u064a \u064a \u064a \u064a"⟩,
   ⟨0xFEF5, 0xFEF9, "\u0644\u0622 \u0644\u0622 \u0644\u0623 \u0644\u0623 \u0644\u0625"⟩,
   ⟨0xFEFA, 0xFEFC, "\u0644\u0625 \u0644\u0627 \u0644\u0627"⟩,
   ⟨0xFF10, 0xFF19, "0 1 2 3 4 5 6 7 8 9"⟩,
   ⟨0xFF21, 0xFF3A, "A B C D E F G H I J K L M N O P Q R S T U V W X Y Z"⟩, ⟨0xFF3F, 0xFF3F, "_"⟩,
   ⟨0xFF41, 0xFF5A, "a b c d e f g h i j k l m n o p q r s t u v w x y z"⟩,
   ⟨0xFF66, 0xFF88, "ヲ ァ ィ ゥ ェ ォ ャ ュ ョ ッ ー ア イ ウ エ オ カ キ ク ケ コ サ シ ス セ ソ タ チ ツ テ ト ナ ニ ヌ ネ"⟩,
   ⟨0xFF89, 0xFFA6, "ノ ハ ヒ フ ヘ ホ マ ミ ム メ モ ヤ ユ ヨ ラ リ ル レ ロ ワ ン \u3099 \u309a ᅠ ᄀ ᄁ ᆪ ᄂ ᆬ ᆭ"⟩,
   ⟨0xFFA7, 0xFFBE, "ᄃ ᄄ ᄅ ᆰ ᆱ ᆲ ᆳ ᆴ ᆵ ᄚ ᄆ ᄇ ᄈ ᄡ ᄉ ᄊ ᄋ ᄌ ᄍ ᄎ ᄏ ᄐ ᄑ ᄒ"⟩,
   ⟨0xFFC2, 0xFFC7, "ᅡ ᅢ ᅣ ᅤ ᅥ ᅦ"⟩, ⟨0xFFCA, 0xFFCF, "ᅧ ᅨ ᅩ ᅪ ᅫ ᅬ"⟩,
   ⟨0xFFD2, 0xFFD7, "ᅭ ᅮ ᅯ ᅰ ᅱ ᅲ"⟩, ⟨0xFFDA, 0xFFDC, "ᅳ ᅴ ᅵ"⟩, ⟨0x10781, 0x10785, "ː ˑ æ ʙ ɓ"⟩,
   ⟨0x10787, 0x107A9, "ʣ ꭦ ʥ ʤ ɖ ɗ ᶑ ɘ ɞ ʩ ɤ ɢ ɠ ʛ ħ ʜ ɧ ʄ ʪ ʫ ɬ 𝼄 ꞎ ɮ 𝼅 ʎ 𝼆 ø ɶ ɷ q ɺ 𝼈 ɽ ɾ"⟩,
   ⟨0x107AA, 0x107B0, "ʀ ʨ ʦ ꭧ ʧ ʈ ⱱ"⟩, ⟨0x107B2, 0x107BA, "ʏ ʡ ʢ ʘ ǀ ǁ ǂ 𝼊 𝼞"⟩,
   ⟨0x1D400, 0x1D422, "A B C D E F G H I J K L M N O P Q R S T U V W X Y Z a b c d e f g h i"⟩,
   ⟨0x1D423, 0x1D445, "j k l m n o p q r s t u v w x y z A B C D E F G H I J K L M N O P Q R"⟩,
   ⟨0x1D446, 0x1D454, "S T U V W X Y Z a b c d e f g"⟩,
   ⟨0x1D456, 0x1D478, "i j k l m n o p q r s t u v w x y z A B C D E F G H I J K L M N O P Q"⟩,
   ⟨0x1D479, 0x1D49B, "R S T U V W X Y Z a b c d e f g h i j k l m n o p q r s t u v w x y z"⟩,
   ⟨0x1D49C, 0x1D49C, "A"⟩, ⟨0x1D49E, 0x1D49F, "C D"⟩, ⟨0x1D4A2, 0x1D4A2, "G"⟩,
   ⟨0x1D4A5, 0x1D4A6, "J K"⟩, ⟨0x1D4A9, 0x1D4AC, "N O P Q"⟩,
   ⟨0x1D4AE, 0x1D4B9, "S T U V W X Y Z a b c d"⟩, ⟨0x1D4BB, 0x1D4BB, "f"⟩,
   ⟨0x1D4BD, 0x1D4C3, "h i j k l m n"⟩,
   ⟨0x1D4C5, 0x1D4E7, "p q r s t u v w x y z A B C D E F G H I J K L M N O P Q R S T U V W X"⟩,
   ⟨0x1D4E8, 0x1D505, "Y Z a b c d e f g h i j k l m n o p q r s t u v w x y z A B"⟩,
   ⟨0x1D507, 0x1D50A, "D E F G"⟩, ⟨0x1D50D, 0x1D514, "J K L M N O P Q"⟩,
   ⟨0x1D516, 0x1D51C, "S T U V W X Y"⟩,
   ⟨0x1D51E, 0x1D539, "a b c d e f g h i j k l m n o p q r s t u v w x y z A B"⟩,
   ⟨0x1D53B, 0x1D53E, "D E F G"⟩, ⟨0x1D540, 0x1D544, "I J K L M"⟩, ⟨0x1D546, 0x1D546, "O"⟩,
   ⟨0x1D54A, 0x1D550, "S T U V W X Y"⟩,
   ⟨0x1D552, 0x1D574, "a b c d e f g h i j k l m n o p q r s t u v w x y z A B C D E F G H I"⟩,
   ⟨0x1D575, 0x1D597, "J K L M N O P Q R S T U V W X Y Z a b c d e f g h i j k l m n o p q r"⟩,
   ⟨0x1D598, 0x1D5BA, "s t u v w x y z A B C D E F G H I J K L M N O P Q R S T U V W X Y Z a"⟩,
   ⟨0x1D5BB, 0x1D5DD, "b c d e f g h i j k l m n o p q r s t u v w x y z A B C D E F G H I J"⟩,
   ⟨0x1D5DE, 0x1D600, "K L M N O P Q R S T U V W X Y Z a b c d e f g h i j k l m n o p q r s"⟩,
   ⟨0x1D601, 0x1D623, "t u v w x y z A B C D E F G H I J K L M N O P Q R S T U V W X Y Z a b"⟩,
   ⟨0x1D624, 0x1D646, "c d e f g h i j k l m n o p q r s t u v w x y z A B C D E F G H I J K"⟩,
   ⟨0x1D647, 0x1D669, "L M N O P Q R S T U V W X Y Z a b c d e f g h i j k l m n o p q r s t"⟩,
   ⟨0x1D66A, 0x1D68C, "u v w x y z A B C D E F G H I J K L M N O P Q R S T U V W X Y Z a b c"⟩,
   ⟨0x1D68D, 0x1D6A5, "d e f g h i j k l m n o p q r s t u v w x y z ı ȷ"⟩,
   ⟨0x1D6A8, 0x1D6C0, "Α Β Γ Δ Ε Ζ Η Θ Ι Κ Λ Μ Ν Ξ Ο Π Ρ Θ Σ Τ Υ Φ Χ Ψ Ω"⟩,
   ⟨0x1D6C2, 0x1D6DA, "α β γ δ ε ζ η θ ι κ λ μ ν ξ ο π ρ ς σ τ υ φ χ ψ ω"⟩,
   ⟨0x1D6DC, 0x1D6FA, "ε θ κ φ ρ π Α Β Γ Δ Ε Ζ Η Θ Ι Κ Λ Μ Ν Ξ Ο Π Ρ Θ Σ Τ Υ Φ Χ Ψ Ω"⟩,
   ⟨0x1D6FC, 0x1D714, "α β γ δ ε ζ η θ ι κ λ μ ν ξ ο π ρ ς σ τ υ φ χ ψ ω"⟩,
   ⟨0x1D716, 0x1D734, "ε θ κ φ ρ π Α Β Γ Δ Ε Ζ Η Θ Ι Κ Λ Μ Ν Ξ Ο Π Ρ Θ Σ Τ Υ Φ Χ Ψ Ω"⟩,
   ⟨0x1D736, 0x1D74E, "α β γ δ ε ζ η θ ι κ λ μ ν ξ ο π ρ ς σ τ υ φ χ ψ ω"⟩,
   ⟨0x1D750, 0x1D76E, "ε θ κ φ ρ π Α Β Γ Δ Ε Ζ Η Θ Ι Κ Λ Μ Ν Ξ Ο Π Ρ Θ Σ Τ Υ Φ Χ Ψ Ω"⟩,
   ⟨0x1D770, 0x1D788, "α β γ δ ε ζ η θ ι κ λ μ ν ξ ο π ρ ς σ τ υ φ χ ψ ω"⟩,
   ⟨0x1D78A, 0x1D7A8, "ε θ κ φ ρ π Α Β Γ Δ Ε Ζ Η Θ Ι Κ Λ Μ Ν Ξ Ο Π Ρ Θ Σ Τ Υ Φ Χ Ψ Ω"⟩,
   ⟨0x1D7AA, 0x1D7C2, "α β γ δ ε ζ η θ ι κ λ μ ν ξ ο π ρ ς σ τ υ φ χ ψ ω"⟩,
   ⟨0x1D7C4, 0x1D7CB, "ε θ κ φ ρ π Ϝ ϝ"⟩,
   ⟨0x1D7CE, 0x1D7F0, "0 1 2 3 4 5 6 7 8 9 0 1 2 3 4 5 6 7 8 9 0 1 2 3 4 5 6 7 8 9 0 1 2 3 4"⟩,
   ⟨0x1D7F1, 0x1D7FF, "5 6 7 8 9 0 1 2 3 4 5 6 7 8 9"⟩,
   ⟨0x1EE00, 0x1EE03, "\u0627 \u0628 \u062c \u062f"⟩,
   ⟨0x1EE05, 0x1EE0E, "\u0648 \u0632 \u062d \u0637 \u064a \u0643 \u0644 \u0645 \u0646 \u0633"⟩,
   ⟨0x1EE0F, 0x1EE18, "\u0639 \u0641 \u0635 \u0642 \u0631 \u0634 \u062a \u062b \u062e \u0630"⟩,
   ⟨0x1EE19, 0x1EE1F, "\u0636 \u0638 \u063a \u066e \u06ba \u06a1 \u066f"⟩,
   ⟨0x1EE21, 0x1EE22, "\u0628 \u062c"⟩, ⟨0x1EE24, 0x1EE24, "\u0647"⟩,
   ⟨0x1EE27, 0x1EE27, "\u062d"⟩,
   ⟨0x1EE29, 0x1EE32, "\u064a \u0643 \u0644 \u0645 \u0646 \u0633 \u0639 \u0641 \u0635 \u0642"⟩,
   ⟨0x1EE34, 0x1EE37, "\u0634 \u062a \u062b \u062e"⟩, ⟨0x1EE39, 0x1EE39, "\u0636"⟩,
   ⟨0x1EE3B, 0x1EE3B, "\u063a"⟩, ⟨0x1EE42, 0x1EE42, "\u062c"⟩, ⟨0x1EE47, 0x1EE47, "\u062d"⟩,
   ⟨0x1EE49, 0x1EE49, "\u064a"⟩, ⟨0x1EE4B, 0x1EE4B, "\u0644"⟩,
   ⟨0x1EE4D, 0x1EE4F, "\u0646 \u0633 \u0639"⟩, ⟨0x1EE51, 0x1EE52, "\u0635 \u0642"⟩,
   ⟨0x1EE54, 0x1EE54, "\u0634"⟩, ⟨0x1EE57, 0x1EE57, "\u062e"⟩, ⟨0x1EE59, 0x1EE59, "\u0636"⟩,
   ⟨0x1EE5B, 0x1EE5B, "\u063a"⟩, ⟨0x1EE5D, 0x1EE5D, "\u06ba"⟩, ⟨0x1EE5F, 0x1EE5F, "\u066f"⟩,
   ⟨0x1EE61, 0x1EE62, "\u0628 \u062c"⟩, ⟨0x1EE64, 0x1EE64, "\u0647"⟩,
   ⟨0x1EE67, 0x1EE6A, "\u062d \u0637 \u064a \u0643"⟩,
   ⟨0x1EE6C, 0x1EE72, "\u0645 \u0646 \u0633 \u0639 \u0641 \u0635 \u0642"⟩,
   ⟨0x1EE74, 0x1EE77, "\u0634 \u062a \u062b \u062e"⟩,
   ⟨0x1EE79, 0x1EE7C, "\u0636 \u0638 \u063a \u066e"⟩, ⟨0x1EE7E, 0x1EE7E, "\u06a1"⟩,
   ⟨0x1EE80, 0x1EE89, "\u0627 \u0628 \u062c \u062f \u0647 \u0648 \u0632 \u062d \u0637 \u064a"⟩,
   ⟨0x1EE8B, 0x1EE94, "\u0644 \u0645 \u0646 \u0633 \u0639 \u0641 \u0635 \u0642 \u0631 \u0634"⟩,
   ⟨0x1EE95, 0x1EE9B, "\u062a \u062b \u062e \u0630 \u0636 \u0638 \u063a"⟩,
   ⟨0x1EEA1, 0x1EEA3, "\u0628 \u062c \u062f"⟩,
   ⟨0x1EEA5, 0x1EEA9, "\u0648 \u0632 \u062d \u0637 \u064a"⟩,
   ⟨0x1EEAB, 0x1EEB4, "\u0644 \u0645 \u0646 \u0633 \u0639 \u0641 \u0635 \u0642 \u0631 \u0634"⟩,
   ⟨0x1EEB5, 0x1EEBB, "\u062a \u062b \u062e \u0630 \u0636 \u0638 \u063a"⟩,
   ⟨0x1FBF0, 0x1FBF9, "0 1 2 3 4 5 6 7 8 9"⟩,
   ⟨0x2F800, 0x2F822, "丽 丸 乁 𠄢 你 侮 侻 倂 偺 備 僧 像 㒞 𠘺 免 兔 兤 具 𠔜 㒹 內 再 𠕋 冗 冤 仌 冬 况 𩇟 凵 刃 㓟 刻 剆 割"⟩,
   ⟨0x2F823, 0x2F845, "剷 㔕 勇 勉 勤 勺 包 匆 北 卉 卑 博 即 卽 卿 卿 卿 𠨬 灰 及 叟 𠭣 叫 叱 吆 咞 吸 呈 周 咢 哶 唐 啓 啣 善"⟩,
   ⟨0x2F846, 0x2F868, "善 喙 喫 喳 嗂 圖 嘆 圗 噑 噴 切 壮 城 埴 堍 型 堲 報 墬 𡓤 売 壷 夆 多 夢 奢 𡚨 𡛪 姬 娛 娧 姘 婦 㛮 㛼"⟩,
   ⟨0x2F869, 0x2F88B, "嬈 嬾 嬾 𡧈 寃 寘 寧 寳 𡬘 寿 将 当 尢 㞁 屠 屮 峀 岍 𡷤 嵃 𡷦 嵮 嵫 嵼 巡 巢 㠯 巽 帨 帽 幩 㡢 𢆃 㡼 庰"⟩,
   ⟨0x2F88C, 0x2F8AE, "庳 庶 廊 𪎒 廾 𢌱 𢌱 舁 弢 弢 㣇 𣊸 𦇚 形 彫 㣣 徚 忍 志 忹 悁 㤺 㤜 悔 𢛔 惇 慈 慌 慎 慌 慺 憎 憲 憤 憯"⟩,
   ⟨0x2F8AF, 0x2F8D1, "懞 懲 懶 成 戛 扝 抱 拔 捐 𢬌 挽 拼 捨 掃 揤 𢯱 搢 揅 掩 㨮 摩 摾 撝 摷 㩬 敏 敬 𣀊 旣 書 晉 㬙 暑 㬈 㫤"⟩,
   ⟨0x2F8D2, 0x2F8F4, "冒 冕 最 暜 肭 䏙 朗 望 朡 杞 杓 𣏃 㭉 柺 枅 桒 梅 𣑭 梎 栟 椔 㮝 楂 榣 槪 檨 𣚣 櫛 㰘 次 𣢧 歔 㱎 歲 殟"⟩,
   ⟨0x2F8F5, 0x2F917, "殺 殻 𣪍 𡴋 𣫺 汎 𣲼 沿 泍 汧 洖 派 海 流 浩 浸 涅 𣴞 洴 港 湮 㴳 滋 滇 𣻑 淹 潮 𣽞 𣾎 濆 瀹 瀞 瀛 㶖 灊"⟩,
   ⟨0x2F918, 0x2F93A, "災 灷 炭 𠔥 煅 𤉣 熜 𤎫 爨 爵 牐 𤘈 犀 犕 𤜵 𤠔 獺 王 㺬 玥 㺸 㺸 瑇 瑜 瑱 璅 瓊 㼛 甤 𤰶 甾 𤲒 異 𢆟 瘐"⟩,
   ⟨0x2F93B, 0x2F95D, "𤾡 𤾸 𥁄 㿼 䀈 直 𥃳 𥃲 𥄙 𥄳 眞 真 真 睊 䀹 瞋 䁆 䂖 𥐝 硎 碌 磌 䃣 𥘦 祖 𥚚 𥛅 福 秫 䄯 穀 穊 穏 𥥼 𥪧"⟩,
   ⟨0x2F95E, 0x2F980, "𥪧 竮 䈂 𥮫 篆 築 䈧 𥲀 糒 䊠 糨 糣 紀 𥾆 絣 䌁 緇 縂 繅 䌴 𦈨 𦉇 䍙 𦋙 罺 𦌾 羕 翺 者 𦓚 𦔣 聠 𦖨 聰 𣍟"⟩,
   ⟨0x2F981, 0x2F9A3, "䏕 育 脃 䐋 脾 媵 𦞧 𦞵 𣎓 𣎜 舁 舄 辞 䑫 芑 芋 芝 劳 花 芳 芽 苦 𦬼 若 茝 荣 莭 茣 莽 菧 著 荓 菊 菌 菜"⟩,
   ⟨0x2F9A4, 0x2F9C6, "𦰶 𦵫 𦳕 䔫 蓱 蓳 蔖 𧏊 蕤 𦼬 䕝 䕡 𦾱 𧃒 䕫 虐 虜 虧 虩 蚩 蚈 蜎 蛢 蝹 蜨 蝫 螆 䗗 蟡 蠁 䗹 衠 衣 𧙧 裗"⟩,
   ⟨0x2F9C7, 0x2F9E9, "裞 䘵 裺 㒻 𧢮 𧥦 䚾 䛇 誠 諭 變 豕 𧲨 貫 賁 贛 起 𧼯 𠠄 跋 趼 跰 𠣞 軔 輸 𨗒 𨗭 邔 郱 鄑 𨜮 鄛 鈸 鋗 鋘"⟩,
   ⟨0x2F9EA, 0x2FA0C, "鉼 鏹 鐕 𨯺 開 䦕 閷 𨵷 䧦 雃 嶲 霣 𩅅 𩈚 䩮 䩶 韠 𩐊 䪲 𩒖 頋 頋 頩 𩖶 飢 䬳 餩 馧 駂 駾 䯎 𩬰 鬒 鱀 鳽"⟩,
   ⟨0x2FA0D, 0x2FA1D, "䳎 䳭 鵧 𪃎 䳸 𪄅 𪈎 𪊑 麻 䵖 黹 黾 鼅 鼏 鼖 鼻 𪘀"⟩]

/-- For a mark, the characters that it can follow, each with the one character that both are together. -/
def markedForms : List (Nat × String) :=
  [(0x0300, "AÀEÈIÌOÒUÙaàeèiìoòuùÜǛüǜNǸnǹЕЀИЍеѐиѝĒḔēḕŌṐōṑWẀwẁÂẦâầĂẰăằÊỀêềÔỒôồƠỜơờƯỪưừYỲyỳ"),
   (0x0300, "ἀἂἁἃἈἊἉἋἐἒἑἓἘἚἙἛἠἢἡἣἨἪἩἫἰἲἱἳἸἺἹἻὀὂὁὃὈὊὉὋὐὒὑὓὙὛὠὢὡὣὨὪὩὫαὰεὲηὴιὶοὸυὺωὼΑᾺΕῈΗῊϊῒ"),
   (0x0300, "ΙῚϋῢΥῪΟῸΩῺ"),
   (0x0301, "AÁEÉIÍOÓUÚYÝaáeéiíoóuúyýCĆcćLĹlĺNŃnńRŔrŕSŚsśZŹzźÜǗüǘGǴgǵÅǺåǻÆǼæǽØǾøǿΑΆΕΈΗΉΙΊ"),
   (0x0301, "ΟΌΥΎΩΏϊΐαάεέηήιίϋΰοόυύωώϒϓГЃКЌгѓкќÇḈçḉĒḖēḗÏḮïḯKḰkḱMḾmḿÕṌõṍŌṒōṓPṔpṕŨṸũṹWẂwẃÂẤ"),
   (0x0301, "âấĂẮăắÊẾêếÔỐôốƠỚơớƯỨưứἀἄἁἅἈἌἉἍἐἔἑἕἘἜἙἝἠἤἡἥἨἬἩἭἰἴἱἵἸἼἹἽὀὄὁὅὈὌὉὍὐὔὑὕὙὝὠὤὡὥὨὬὩὭ"),
   (0x0302, "AÂEÊIÎOÔUÛaâeêiîoôuûCĈcĉGĜgĝHĤhĥJĴjĵSŜsŝWŴwŵYŶyŷZẐzẑẠẬạậẸỆẹệỌỘọộ"),
   (0x0303, "AÃNÑOÕaãnñoõIĨiĩUŨuũVṼvṽÂẪâẫĂẴăẵEẼeẽÊỄêễÔỖôỗƠỠơỡƯỮưữYỸyỹ"),
   (0x0304, "AĀaāEĒeēIĪiīOŌoōUŪuūÜǕüǖÄǞäǟȦǠȧǡÆǢæǣǪǬǫǭÖȪöȫÕȬõȭȮȰȯȱYȲyȳИӢиӣУӮуӯGḠgḡḶḸḷḹṚṜṛṝ"),
   (0x0304, "αᾱΑᾹιῑΙῙυῡΥῩ"),
   (0x0306, "AĂaăEĔeĕGĞgğIĬiĭOŎoŏUŬuŭУЎИЙийуўЖӁжӂАӐаӑЕӖеӗȨḜȩḝẠẶạặαᾰΑᾸιῐΙῘυῠΥῨ"),
   (0x0307, "CĊcċEĖeėGĠgġIİZŻzżAȦaȧOȮoȯBḂbḃDḊdḋFḞfḟHḢhḣMṀmṁNṄnṅPṖpṗRṘrṙSṠsṡŚṤśṥŠṦšṧṢṨṣṩTṪ"),
   (0x0307, "tṫWẆwẇXẊxẋYẎyẏſẛ"),
   (0x0308, "AÄEËIÏOÖUÜaäeëiïoöuüyÿYŸΙΪΥΫιϊυϋϒϔЕЁІЇеёіїАӒаӓӘӚәӛЖӜжӝЗӞзӟИӤиӥОӦоӧӨӪөӫЭӬэӭУӰ"),
   (0x0308, "уӱЧӴчӵЫӸыӹHḦhḧÕṎõṏŪṺūṻWẄwẅXẌxẍtẗ"),
   (0x0309, "AẢaảÂẨâẩĂẲăẳEẺeẻÊỂêểIỈiỉOỎoỏÔỔôổƠỞơởUỦuủƯỬưửYỶyỷ"), (0x030A, "AÅaåUŮuůwẘyẙ"),
   (0x030B, "OŐoőUŰuűУӲуӳ"),
   (0x030C, "CČcčDĎdďEĚeěLĽlľNŇnňRŘrřSŠsšTŤtťZŽzžAǍaǎIǏiǐOǑoǒUǓuǔÜǙüǚGǦgǧKǨkǩƷǮʒǯjǰHȞhȟ"),
   (0x030F, "AȀaȁEȄeȅIȈiȉOȌoȍRȐrȑUȔuȕѴѶѵѷ"), (0x0311, "AȂaȃEȆeȇIȊiȋOȎoȏRȒrȓUȖuȗ"),
   (0x0313, "αἀΑἈεἐΕἘηἠΗἨιἰΙἸοὀΟὈυὐωὠΩὨρῤ"), (0x0314, "αἁΑἉεἑΕἙηἡΗἩιἱΙἹοὁΟὉυὑΥὙωὡΩὩρῥΡῬ"),
   (0x031B, "OƠoơUƯuư"),
   (0x0323, "BḄbḅDḌdḍHḤhḥKḲkḳLḶlḷMṂmṃNṆnṇRṚrṛSṢsṣTṬtṭVṾvṿWẈwẉZẒzẓAẠaạEẸeẹIỊiịOỌoọƠỢơợUỤuụ"),
   (0x0323, "ƯỰưựYỴyỵ"), (0x0324, "UṲuṳ"), (0x0325, "AḀaḁ"), (0x0326, "SȘsșTȚtț"),
   (0x0327, "CÇcçGĢgģKĶkķLĻlļNŅnņRŖrŗSŞsşTŢtţEȨeȩDḐdḑHḨhḩ"), (0x0328, "AĄaąEĘeęIĮiįUŲuųOǪoǫ"),
   (0x032D, "DḒdḓEḘeḙLḼlḽNṊnṋTṰtṱUṶuṷ"), (0x032E, "HḪhḫ"), (0x0330, "EḚeḛIḬiḭUṴuṵ"),
   (0x0331, "BḆbḇDḎdḏKḴkḵLḺlḻNṈnṉRṞrṟTṮtṯZẔzẕhẖ"),
   (0x0342, "ἀἆἁἇἈἎἉἏἠἦἡἧἨἮἩἯἰἶἱἷἸἾἹἿὐὖὑὗὙὟὠὦὡὧὨὮὩὯαᾶηῆιῖϊῗυῦϋῧωῶ"),
   (0x0345, "ἀᾀἁᾁἂᾂἃᾃἄᾄἅᾅἆᾆἇᾇἈᾈἉᾉἊᾊἋᾋἌᾌἍᾍἎᾎἏᾏἠᾐἡᾑἢᾒἣᾓἤᾔἥᾕἦᾖἧᾗἨᾘἩᾙἪᾚἫᾛἬᾜἭᾝἮᾞἯᾟὠᾠὡᾡὢᾢὣᾣὤᾤὥᾥ"),
   (0x0345, "ὦᾦὧᾧὨᾨὩᾩὪᾪὫᾫὬᾬὭᾭὮᾮὯᾯὰᾲαᾳάᾴᾶᾷΑᾼὴῂηῃήῄῆῇΗῌὼῲωῳώῴῶῷΩῼ"), (0x0653, "\u0627\u0622"),
   (0x0654, "\u0627\u0623\u0648\u0624\u064a\u0626\u06d5\u06c0\u06c1\u06c2\u06d2\u06d3"),
   (0x0655, "\u0627\u0625"), (0x093C, "नऩरऱळऴ"), (0x09BE, "\u09c7\u09cb"),
   (0x09D7, "\u09c7\u09cc"), (0x0B3E, "\u0b47\u0b4b"), (0x0B56, "\u0b47\u0b48"),
   (0x0B57, "\u0b47\u0b4c"), (0x0BBE, "\u0bc6\u0bca\u0bc7\u0bcb"), (0x0BD7, "ஒஔ\u0bc6\u0bcc"),
   (0x0C56, "\u0c46\u0c48"), (0x0CC2, "\u0cc6\u0cca"),
   (0x0CD5, "\u0cbf\u0cc0\u0cc6\u0cc7\u0cca\u0ccb"), (0x0CD6, "\u0cc6\u0cc8"),
   (0x0D3E, "\u0d46\u0d4a\u0d47\u0d4b"), (0x0D57, "\u0d46\u0d4c"),
   (0x0DCA, "\u0dd9\u0dda\u0ddc\u0ddd"), (0x0DCF, "\u0dd9\u0ddc"), (0x0DDF, "\u0dd9\u0dde"),
   (0x102E, "ဥဦ"),
   (0x1B35, "ᬅᬆᬇᬈᬉᬊᬋᬌᬍᬎᬑᬒ\u1b3a\u1b3b\u1b3c\u1b3d\u1b3e\u1b40\u1b3f\u1b41\u1b42\u1b43"),
   (0x3099, "かがきぎくぐけげこごさざしじすずせぜそぞただちぢつづてでとどはばひびふぶへべほぼうゔゝゞカガキギクグケゲコゴサザシジスズセゼソゾタダチヂツヅテデトドハバ"),
   (0x3099, "ヒビフブヘベホボウヴワヷヰヸヱヹヲヺヽヾ"), (0x309A, "はぱひぴふぷへぺほぽハパヒピフプヘペホポ"), (0x110BA, "𑂙𑂚𑂛𑂜𑂥𑂫"),
   (0x11127, "𑄱𑄮𑄲𑄯"), (0x1133E, "𑍇𑍋"), (0x11357, "𑍇𑍌"), (0x114B0, "𑒹𑒼"),
   (0x114BA, "𑒹𑒻"), (0x114BD, "𑒹𑒾"), (0x115AF, "𑖸𑖺𑖹𑖻"), (0x11930, "𑤵𑤸")]

/-- The marks with their places. -/
def markRuns : List MarkRun :=
  [⟨0x0300, 0x0314, 230⟩, ⟨0x0315, 0x0315, 232⟩, ⟨0x0316, 0x0319, 220⟩, ⟨0x031A, 0x031A, 232⟩,
   ⟨0x031B, 0x031B, 216⟩, ⟨0x031C, 0x0320, 220⟩, ⟨0x0321, 0x0322, 202⟩, ⟨0x0323, 0x0326, 220⟩,
   ⟨0x0327, 0x0328, 202⟩, ⟨0x0329, 0x0333, 220⟩, ⟨0x0334, 0x0338, 1⟩, ⟨0x0339, 0x033C, 220⟩,
   ⟨0x033D, 0x0344, 230⟩, ⟨0x0345, 0x0345, 240⟩, ⟨0x0346, 0x0346, 230⟩, ⟨0x0347, 0x0349, 220⟩,
   ⟨0x034A, 0x034C, 230⟩, ⟨0x034D, 0x034E, 220⟩, ⟨0x0350, 0x0352, 230⟩, ⟨0x0353, 0x0356, 220⟩,
   ⟨0x0357, 0x0357, 230⟩, ⟨0x0358, 0x0358, 232⟩, ⟨0x0359, 0x035A, 220⟩, ⟨0x035B, 0x035B, 230⟩,
   ⟨0x035C, 0x035C, 233⟩, ⟨0x035D, 0x035E, 234⟩, ⟨0x035F, 0x035F, 233⟩, ⟨0x0360, 0x0361, 234⟩,
   ⟨0x0362, 0x0362, 233⟩, ⟨0x0363, 0x036F, 230⟩, ⟨0x0483, 0x0487, 230⟩, ⟨0x0591, 0x0591, 220⟩,
   ⟨0x0592, 0x0595, 230⟩, ⟨0x0596, 0x0596, 220⟩, ⟨0x0597, 0x0599, 230⟩, ⟨0x059A, 0x059A, 222⟩,
   ⟨0x059B, 0x059B, 220⟩, ⟨0x059C, 0x05A1, 230⟩, ⟨0x05A2, 0x05A7, 220⟩, ⟨0x05A8, 0x05A9, 230⟩,
   ⟨0x05AA, 0x05AA, 220⟩, ⟨0x05AB, 0x05AC, 230⟩, ⟨0x05AD, 0x05AD, 222⟩, ⟨0x05AE, 0x05AE, 228⟩,
   ⟨0x05AF, 0x05AF, 230⟩, ⟨0x05B0, 0x05B0, 10⟩, ⟨0x05B1, 0x05B1, 11⟩, ⟨0x05B2, 0x05B2, 12⟩,
   ⟨0x05B3, 0x05B3, 13⟩, ⟨0x05B4, 0x05B4, 14⟩, ⟨0x05B5, 0x05B5, 15⟩, ⟨0x05B6, 0x05B6, 16⟩,
   ⟨0x05B7, 0x05B7, 17⟩, ⟨0x05B8, 0x05B8, 18⟩, ⟨0x05B9, 0x05BA, 19⟩, ⟨0x05BB, 0x05BB, 20⟩,
   ⟨0x05BC, 0x05BC, 21⟩, ⟨0x05BD, 0x05BD, 22⟩, ⟨0x05BF, 0x05BF, 23⟩, ⟨0x05C1, 0x05C1, 24⟩,
   ⟨0x05C2, 0x05C2, 25⟩, ⟨0x05C4, 0x05C4, 230⟩, ⟨0x05C5, 0x05C5, 220⟩, ⟨0x05C7, 0x05C7, 18⟩,
   ⟨0x0610, 0x0617, 230⟩, ⟨0x0618, 0x0618, 30⟩, ⟨0x0619, 0x0619, 31⟩, ⟨0x061A, 0x061A, 32⟩,
   ⟨0x064B, 0x064B, 27⟩, ⟨0x064C, 0x064C, 28⟩, ⟨0x064D, 0x064D, 29⟩, ⟨0x064E, 0x064E, 30⟩,
   ⟨0x064F, 0x064F, 31⟩, ⟨0x0650, 0x0650, 32⟩, ⟨0x0651, 0x0651, 33⟩, ⟨0x0652, 0x0652, 34⟩,
   ⟨0x0653, 0x0654, 230⟩, ⟨0x0655, 0x0656, 220⟩, ⟨0x0657, 0x065B, 230⟩, ⟨0x065C, 0x065C, 220⟩,
   ⟨0x065D, 0x065E, 230⟩, ⟨0x065F, 0x065F, 220⟩, ⟨0x0670, 0x0670, 35⟩, ⟨0x06D6, 0x06DC, 230⟩,
   ⟨0x06DF, 0x06E2, 230⟩, ⟨0x06E3, 0x06E3, 220⟩, ⟨0x06E4, 0x06E4, 230⟩, ⟨0x06E7, 0x06E8, 230⟩,
   ⟨0x06EA, 0x06EA, 220⟩, ⟨0x06EB, 0x06EC, 230⟩, ⟨0x06ED, 0x06ED, 220⟩, ⟨0x0711, 0x0711, 36⟩,
   ⟨0x0730, 0x0730, 230⟩, ⟨0x0731, 0x0731, 220⟩, ⟨0x0732, 0x0733, 230⟩, ⟨0x0734, 0x0734, 220⟩,
   ⟨0x0735, 0x0736, 230⟩, ⟨0x0737, 0x0739, 220⟩, ⟨0x073A, 0x073A, 230⟩, ⟨0x073B, 0x073C, 220⟩,
   ⟨0x073D, 0x073D, 230⟩, ⟨0x073E, 0x073E, 220⟩, ⟨0x073F, 0x0741, 230⟩, ⟨0x0742, 0x0742, 220⟩,
   ⟨0x0743, 0x0743, 230⟩, ⟨0x0744, 0x0744, 220⟩, ⟨0x0745, 0x0745, 230⟩, ⟨0x0746, 0x0746, 220⟩,
   ⟨0x0747, 0x0747, 230⟩, ⟨0x0748, 0x0748, 220⟩, ⟨0x0749, 0x074A, 230⟩, ⟨0x07EB, 0x07F1, 230⟩,
   ⟨0x07F2, 0x07F2, 220⟩, ⟨0x07F3, 0x07F3, 230⟩, ⟨0x07FD, 0x07FD, 220⟩, ⟨0x0816, 0x0819, 230⟩,
   ⟨0x081B, 0x0823, 230⟩, ⟨0x0825, 0x0827, 230⟩, ⟨0x0829, 0x082D, 230⟩, ⟨0x0859, 0x085B, 220⟩,
   ⟨0x0898, 0x0898, 230⟩, ⟨0x0899, 0x089B, 220⟩, ⟨0x089C, 0x089F, 230⟩, ⟨0x08CA, 0x08CE, 230⟩,
   ⟨0x08CF, 0x08D3, 220⟩, ⟨0x08D4, 0x08E1, 230⟩, ⟨0x08E3, 0x08E3, 220⟩, ⟨0x08E4, 0x08E5, 230⟩,
   ⟨0x08E6, 0x08E6, 220⟩, ⟨0x08E7, 0x08E8, 230⟩, ⟨0x08E9, 0x08E9, 220⟩, ⟨0x08EA, 0x08EC, 230⟩,
   ⟨0x08ED, 0x08EF, 220⟩, ⟨0x08F0, 0x08F0, 27⟩, ⟨0x08F1, 0x08F1, 28⟩, ⟨0x08F2, 0x08F2, 29⟩,
   ⟨0x08F3, 0x08F5, 230⟩, ⟨0x08F6, 0x08F6, 220⟩, ⟨0x08F7, 0x08F8, 230⟩, ⟨0x08F9, 0x08FA, 220⟩,
   ⟨0x08FB, 0x08FF, 230⟩, ⟨0x093C, 0x093C, 7⟩, ⟨0x094D, 0x094D, 9⟩, ⟨0x0951, 0x0951, 230⟩,
   ⟨0x0952, 0x0952, 220⟩, ⟨0x0953, 0x0954, 230⟩, ⟨0x09BC, 0x09BC, 7⟩, ⟨0x09CD, 0x09CD, 9⟩,
   ⟨0x09FE, 0x09FE, 230⟩, ⟨0x0A3C, 0x0A3C, 7⟩, ⟨0x0A4D, 0x0A4D, 9⟩, ⟨0x0ABC, 0x0ABC, 7⟩,
   ⟨0x0ACD, 0x0ACD, 9⟩, ⟨0x0B3C, 0x0B3C, 7⟩, ⟨0x0B4D, 0x0B4D, 9⟩, ⟨0x0BCD, 0x0BCD, 9⟩,
   ⟨0x0C3C, 0x0C3C, 7⟩, ⟨0x0C4D, 0x0C4D, 9⟩, ⟨0x0C55, 0x0C55, 84⟩, ⟨0x0C56, 0x0C56, 91⟩,
   ⟨0x0CBC, 0x0CBC, 7⟩, ⟨0x0CCD, 0x0CCD, 9⟩, ⟨0x0D3B, 0x0D3C, 9⟩, ⟨0x0D4D, 0x0D4D, 9⟩,
   ⟨0x0DCA, 0x0DCA, 9⟩, ⟨0x0E38, 0x0E39, 103⟩, ⟨0x0E3A, 0x0E3A, 9⟩, ⟨0x0E48, 0x0E4B, 107⟩,
   ⟨0x0EB8, 0x0EB9, 118⟩, ⟨0x0EBA, 0x0EBA, 9⟩, ⟨0x0EC8, 0x0ECB, 122⟩, ⟨0x0F18, 0x0F19, 220⟩,
   ⟨0x0F35, 0x0F35, 220⟩, ⟨0x0F37, 0x0F37, 220⟩, ⟨0x0F39, 0x0F39, 216⟩, ⟨0x0F71, 0x0F71, 129⟩,
   ⟨0x0F72, 0x0F72, 130⟩, ⟨0x0F74, 0x0F74, 132⟩, ⟨0x0F7A, 0x0F7D, 130⟩, ⟨0x0F80, 0x0F80, 130⟩,
   ⟨0x0F82, 0x0F83, 230⟩, ⟨0x0F84, 0x0F84, 9⟩, ⟨0x0F86, 0x0F87, 230⟩, ⟨0x0FC6, 0x0FC6, 220⟩,
   ⟨0x1037, 0x1037, 7⟩, ⟨0x1039, 0x103A, 9⟩, ⟨0x108D, 0x108D, 220⟩, ⟨0x135D, 0x135F, 230⟩,
   ⟨0x1714, 0x1715, 9⟩, ⟨0x1734, 0x1734, 9⟩, ⟨0x17D2, 0x17D2, 9⟩, ⟨0x17DD, 0x17DD, 230⟩,
   ⟨0x18A9, 0x18A9, 228⟩, ⟨0x1939, 0x1939, 222⟩, ⟨0x193A, 0x193A, 230⟩, ⟨0x193B, 0x193B, 220⟩,
   ⟨0x1A17, 0x1A17, 230⟩, ⟨0x1A18, 0x1A18, 220⟩, ⟨0x1A60, 0x1A60, 9⟩, ⟨0x1A75, 0x1A7C, 230⟩,
   ⟨0x1A7F, 0x1A7F, 220⟩, ⟨0x1AB0, 0x1AB4, 230⟩, ⟨0x1AB5, 0x1ABA, 220⟩, ⟨0x1ABB, 0x1ABC, 230⟩,
   ⟨0x1ABD, 0x1ABD, 220⟩, ⟨0x1ABF, 0x1AC0, 220⟩, ⟨0x1AC1, 0x1AC2, 230⟩, ⟨0x1AC3, 0x1AC4, 220⟩,
   ⟨0x1AC5, 0x1AC9, 230⟩, ⟨0x1ACA, 0x1ACA, 220⟩, ⟨0x1ACB, 0x1ACE, 230⟩, ⟨0x1B34, 0x1B34, 7⟩,
   ⟨0x1B44, 0x1B44, 9⟩, ⟨0x1B6B, 0x1B6B, 230⟩, ⟨0x1B6C, 0x1B6C, 220⟩, ⟨0x1B6D, 0x1B73, 230⟩,
   ⟨0x1BAA, 0x1BAB, 9⟩, ⟨0x1BE6, 0x1BE6, 7⟩, ⟨0x1BF2, 0x1BF3, 9⟩, ⟨0x1C37, 0x1C37, 7⟩,
   ⟨0x1CD0, 0x1CD2, 230⟩, ⟨0x1CD4, 0x1CD4, 1⟩, ⟨0x1CD5, 0x1CD9, 220⟩, ⟨0x1CDA, 0x1CDB, 230⟩,
   ⟨0x1CDC, 0x1CDF, 220⟩, ⟨0x1CE0, 0x1CE0, 230⟩, ⟨0x1CE2, 0x1CE8, 1⟩, ⟨0x1CED, 0x1CED, 220⟩,
   ⟨0x1CF4, 0x1CF4, 230⟩, ⟨0x1CF8, 0x1CF9, 230⟩, ⟨0x1DC0, 0x1DC1, 230⟩, ⟨0x1DC2, 0x1DC2, 220⟩,
   ⟨0x1DC3, 0x1DC9, 230⟩, ⟨0x1DCA, 0x1DCA, 220⟩, ⟨0x1DCB, 0x1DCC, 230⟩, ⟨0x1DCD, 0x1DCD, 234⟩,
   ⟨0x1DCE, 0x1DCE, 214⟩, ⟨0x1DCF, 0x1DCF, 220⟩, ⟨0x1DD0, 0x1DD0, 202⟩, ⟨0x1DD1, 0x1DF5, 230⟩,
   ⟨0x1DF6, 0x1DF6, 232⟩, ⟨0x1DF7, 0x1DF8, 228⟩, ⟨0x1DF9, 0x1DF9, 220⟩, ⟨0x1DFA, 0x1DFA, 218⟩,
   ⟨0x1DFB, 0x1DFB, 230⟩, ⟨0x1DFC, 0x1DFC, 233⟩, ⟨0x1DFD, 0x1DFD, 220⟩, ⟨0x1DFE, 0x1DFE, 230⟩,
   ⟨0x1DFF, 0x1DFF, 220⟩, ⟨0x20D0, 0x20D1, 230⟩, ⟨0x20D2, 0x20D3, 1⟩, ⟨0x20D4, 0x20D7, 230⟩,
   ⟨0x20D8, 0x20DA, 1⟩, ⟨0x20DB, 0x20DC, 230⟩, ⟨0x20E1, 0x20E1, 230⟩, ⟨0x20E5, 0x20E6, 1⟩,
   ⟨0x20E7, 0x20E7, 230⟩, ⟨0x20E8, 0x20E8, 220⟩, ⟨0x20E9, 0x20E9, 230⟩, ⟨0x20EA, 0x20EB, 1⟩,
   ⟨0x20EC, 0x20EF, 220⟩, ⟨0x20F0, 0x20F0, 230⟩, ⟨0x2CEF, 0x2CF1, 230⟩, ⟨0x2D7F, 0x2D7F, 9⟩,
   ⟨0x2DE0, 0x2DFF, 230⟩, ⟨0x302A, 0x302A, 218⟩, ⟨0x302B, 0x302B, 228⟩, ⟨0x302C, 0x302C, 232⟩,
   ⟨0x302D, 0x302D, 222⟩, ⟨0x302E, 0x302F, 224⟩, ⟨0x3099, 0x309A, 8⟩, ⟨0xA66F, 0xA66F, 230⟩,
   ⟨0xA674, 0xA67D, 230⟩, ⟨0xA69E, 0xA69F, 230⟩, ⟨0xA6F0, 0xA6F1, 230⟩, ⟨0xA806, 0xA806, 9⟩,
   ⟨0xA82C, 0xA82C, 9⟩, ⟨0xA8C4, 0xA8C4, 9⟩, ⟨0xA8E0, 0xA8F1, 230⟩, ⟨0xA92B, 0xA92D, 220⟩,
   ⟨0xA953, 0xA953, 9⟩, ⟨0xA9B3, 0xA9B3, 7⟩, ⟨0xA9C0, 0xA9C0, 9⟩, ⟨0xAAB0, 0xAAB0, 230⟩,
   ⟨0xAAB2, 0xAAB3, 230⟩, ⟨0xAAB4, 0xAAB4, 220⟩, ⟨0xAAB7, 0xAAB8, 230⟩, ⟨0xAABE, 0xAABF, 230⟩,
   ⟨0xAAC1, 0xAAC1, 230⟩, ⟨0xAAF6, 0xAAF6, 9⟩, ⟨0xABED, 0xABED, 9⟩, ⟨0xFB1E, 0xFB1E, 26⟩,
   ⟨0xFE20, 0xFE26, 230⟩, ⟨0xFE27, 0xFE2D, 220⟩, ⟨0xFE2E, 0xFE2F, 230⟩, ⟨0x101FD, 0x101FD, 220⟩,
   ⟨0x102E0, 0x102E0, 220⟩, ⟨0x10376, 0x1037A, 230⟩, ⟨0x10A0D, 0x10A0D, 220⟩,
   ⟨0x10A0F, 0x10A0F, 230⟩, ⟨0x10A38, 0x10A38, 230⟩, ⟨0x10A39, 0x10A39, 1⟩,
   ⟨0x10A3A, 0x10A3A, 220⟩, ⟨0x10A3F, 0x10A3F, 9⟩, ⟨0x10AE5, 0x10AE5, 230⟩,
   ⟨0x10AE6, 0x10AE6, 220⟩, ⟨0x10D24, 0x10D27, 230⟩, ⟨0x10EAB, 0x10EAC, 230⟩,
   ⟨0x10F46, 0x10F47, 220⟩, ⟨0x10F48, 0x10F4A, 230⟩, ⟨0x10F4B, 0x10F4B, 220⟩,
   ⟨0x10F4C, 0x10F4C, 230⟩, ⟨0x10F4D, 0x10F50, 220⟩, ⟨0x10F82, 0x10F82, 230⟩,
   ⟨0x10F83, 0x10F83, 220⟩, ⟨0x10F84, 0x10F84, 230⟩, ⟨0x10F85, 0x10F85, 220⟩,
   ⟨0x11046, 0x11046, 9⟩, ⟨0x11070, 0x11070, 9⟩, ⟨0x1107F, 0x1107F, 9⟩, ⟨0x110B9, 0x110B9, 9⟩,
   ⟨0x110BA, 0x110BA, 7⟩, ⟨0x11100, 0x11102, 230⟩, ⟨0x11133, 0x11134, 9⟩, ⟨0x11173, 0x11173, 7⟩,
   ⟨0x111C0, 0x111C0, 9⟩, ⟨0x111CA, 0x111CA, 7⟩, ⟨0x11235, 0x11235, 9⟩, ⟨0x11236, 0x11236, 7⟩,
   ⟨0x112E9, 0x112E9, 7⟩, ⟨0x112EA, 0x112EA, 9⟩, ⟨0x1133B, 0x1133C, 7⟩, ⟨0x1134D, 0x1134D, 9⟩,
   ⟨0x11366, 0x1136C, 230⟩, ⟨0x11370, 0x11374, 230⟩, ⟨0x11442, 0x11442, 9⟩, ⟨0x11446, 0x11446, 7⟩,
   ⟨0x1145E, 0x1145E, 230⟩, ⟨0x114C2, 0x114C2, 9⟩, ⟨0x114C3, 0x114C3, 7⟩, ⟨0x115BF, 0x115BF, 9⟩,
   ⟨0x115C0, 0x115C0, 7⟩, ⟨0x1163F, 0x1163F, 9⟩, ⟨0x116B6, 0x116B6, 9⟩, ⟨0x116B7, 0x116B7, 7⟩,
   ⟨0x1172B, 0x1172B, 9⟩, ⟨0x11839, 0x11839, 9⟩, ⟨0x1183A, 0x1183A, 7⟩, ⟨0x1193D, 0x1193E, 9⟩,
   ⟨0x11943, 0x11943, 7⟩, ⟨0x119E0, 0x119E0, 9⟩, ⟨0x11A34, 0x11A34, 9⟩, ⟨0x11A47, 0x11A47, 9⟩,
   ⟨0x11A99, 0x11A99, 9⟩, ⟨0x11C3F, 0x11C3F, 9⟩, ⟨0x11D42, 0x11D42, 7⟩, ⟨0x11D44, 0x11D45, 9⟩,
   ⟨0x11D97, 0x11D97, 9⟩, ⟨0x16AF0, 0x16AF4, 1⟩, ⟨0x16B30, 0x16B36, 230⟩, ⟨0x16FF0, 0x16FF1, 6⟩,
   ⟨0x1BC9E, 0x1BC9E, 1⟩, ⟨0x1D165, 0x1D166, 216⟩, ⟨0x1D167, 0x1D169, 1⟩, ⟨0x1D16D, 0x1D16D, 226⟩,
   ⟨0x1D16E, 0x1D172, 216⟩, ⟨0x1D17B, 0x1D182, 220⟩, ⟨0x1D185, 0x1D189, 230⟩,
   ⟨0x1D18A, 0x1D18B, 220⟩, ⟨0x1D1AA, 0x1D1AD, 230⟩, ⟨0x1D242, 0x1D244, 230⟩,
   ⟨0x1E000, 0x1E006, 230⟩, ⟨0x1E008, 0x1E018, 230⟩, ⟨0x1E01B, 0x1E021, 230⟩,
   ⟨0x1E023, 0x1E024, 230⟩, ⟨0x1E026, 0x1E02A, 230⟩, ⟨0x1E130, 0x1E136, 230⟩,
   ⟨0x1E2AE, 0x1E2AE, 230⟩, ⟨0x1E2EC, 0x1E2EF, 230⟩, ⟨0x1E8D0, 0x1E8D6, 220⟩,
   ⟨0x1E944, 0x1E949, 230⟩, ⟨0x1E94A, 0x1E94A, 7⟩]

end Mapsmith.Text
