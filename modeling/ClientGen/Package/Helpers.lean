/-! # Helper sources

  The two fixed files that every package holds: the class of requests and the writer of queries. -/

namespace ClientGen.Package

/-- A file of lines, each ended by a line break. -/
def fileOfLines (lines : List String) : String := String.join (lines.map (· ++ "\n"))

def requestHelper : String := fileOfLines [
  "'use strict';",
  "",
  "/**",
  " * Request descriptor returned by every generated endpoint function.",
  " * Holds \x60method\x60, \x60url\x60 and, for endpoints taking a payload, \x60data\x60.",
  " */",
  "function AjaxPipe(descriptor) \x7b",
  "  var self = this;",
  "  Object.keys(descriptor).forEach(function (key) \x7b",
  "    self[key] = descriptor[key];",
  "  \x7d);",
  "\x7d",
  "",
  "/**",
  " * Hands the descriptor to \x60transform\x60 and returns its result, so callers can",
  " * chain their own HTTP layer: \x60getPet(host, 1).pipeThrough(send)\x60.",
  " */",
  "AjaxPipe.prototype.pipeThrough = function (transform) \x7b",
  "  return transform(this);",
  "\x7d;",
  "",
  "module.exports = AjaxPipe;"]

def queryHelper : String := fileOfLines [
  "'use strict';",
  "",
  "/**",
  " * Serializes a key/value bag into a query string with a leading \x60?\x60.",
  " * Structured values are JSON-encoded; keys and values are percent-encoded.",
  " * Returns an empty string for a missing or empty bag.",
  " */",
  "module.exports = function makeQuery(params) \x7b",
  "  if (!params) \x7b",
  "    return '';",
  "  \x7d",
  "",
  "  var keys = Object.keys(params);",
  "  if (keys.length === 0) \x7b",
  "    return '';",
  "  \x7d",
  "",
  "  return '?' + keys.map(function (key) \x7b",
  "    var value = params[key];",
  "    if (typeof value === 'object') \x7b",
  "      value = JSON.stringify(value);",
  "    \x7d",
  "    return encodeURIComponent(key) + '=' + encodeURIComponent(value);",
  "  \x7d).join('&');",
  "\x7d;"]

end ClientGen.Package
