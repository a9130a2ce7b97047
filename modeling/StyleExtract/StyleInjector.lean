import StyleExtract.Text.Quoted

/-!
# Style modules in development

In development a style module is a script that keeps one style element in the document up to date
and removes it when the module is no longer used.

## Main definitions

* `styleInjector` — the text of the script.
-/

namespace StyleExtract

/-- The script of a style module with an id, styles and their digest. -/
def styleInjector (id css hash : String) : String :=
  "const id = " ++ Text.scriptQuote id ++ ";\nconst css = " ++ Text.scriptQuote css ++
    ";\nconst hash = " ++ Text.scriptQuote hash ++ ";\n" ++
    "if (typeof document !== \"undefined\") \x7b\n" ++
    "  let el = Array.from(document.querySelectorAll(\"style[data-ss-id]\"))" ++
    ".find((s) => s.getAttribute(\"data-ss-id\") === id);\n" ++
    "  if (!el) \x7b\n" ++
    "    el = document.createElement(\"style\");\n" ++
    "    el.setAttribute(\"data-ss-id\", id);\n" ++
    "    document.head.appendChild(el);\n" ++
    "  \x7d\n" ++
    "  if (el.getAttribute(\"data-ss-hash\") !== hash) \x7b\n" ++
    "    el.setAttribute(\"data-ss-hash\", hash);\n" ++
    "    el.textContent = css;\n" ++
    "  \x7d\n" ++
    "\x7d\n" ++
    "if (import.meta.hot) \x7b\n" ++
    "  import.meta.hot.accept();\n" ++
    "  import.meta.hot.prune(() => \x7b\n" ++
    "    for (const s of document.querySelectorAll(\"style[data-ss-id]\")) \x7b\n" ++
    "      if (s.getAttribute(\"data-ss-id\") === id) s.remove();\n" ++
    "    \x7d\n" ++
    "  \x7d);\n" ++
    "\x7d\n" ++
    "export default css;\n"

end StyleExtract
